/-! Bounds of binary words. -/
namespace Reflex.Word

/-- How many words of 32 bits there are. -/
abbrev size32 : Nat := 4294967296

/-- How many words of 64 bits there are. -/
abbrev size64 : Nat := 18446744073709551616

/-- How many of them stand for a negative number when read with a sign. -/
abbrev half64 : Nat := 9223372036854775808

end Reflex.Word
