/-!
# Powers

A number to the power of a natural number is what the number's own type says,
also where there are other ways to take powers.
-/

attribute [instance (20000), default_instance (20000)] instPowNat
