/-!
# Which operations are meant

Powers and sums of numbers, and hashes of characters, are those of the core library.
Further imports offer others, which agree with these.  Here one of each is chosen, so that a
definition is the same term for a program and for a proof about it.
-/

namespace ComponentReference

/-- The powers of a natural number. -/
@[default_instance 20000]
instance (priority := high) powNat : Pow Nat Nat := instPowNat

/-- The powers of a whole number. -/
@[default_instance 15000]
instance (priority := high) powInt : Pow Int Nat := instPowNat

/-- What an empty list of numbers adds up to. -/
instance (priority := high) zeroNat : Zero Nat := Zero.ofOfNat0

instance (priority := high) hashableChar : Hashable Char := instHashableChar

end ComponentReference
