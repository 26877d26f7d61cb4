/-!
# Powers

Bounds of machine words, places of digits and scales of binary floats are written as
powers. They are the powers of Lean's own arithmetic, also where an algebra library
with a notion of power of its own is imported: a bound is then the same term
everywhere, and the lemmas about natural numbers apply to it.
-/

attribute [instance (high), default_instance (high + 1)] instPowNat
