import ComponentReference.Text.Utf8

/-!
# Halves of surrogate pairs

JSON can write one half of a surrogate pair without the other, and a name of a file that is
no UTF-8 is read as if it held such halves.  No character is a half, and none can be written
as UTF-8.  So that texts can be read, compared and put together with halves in them all the
same, a character that is for private use stands for each; whoever writes a text has to tell
them apart again, and to refuse them.  Records are left as they are, and show what stands for
a half.
-/

namespace ComponentReference

namespace Text

/-- The character that stands for a half. -/
def ofHalf (unit : Nat) : Char :=
  Char.ofNat (0x10F000 + (unit - 0xD800))

/-- The half that a character stands for. -/
def half? (c : Char) : Option Nat :=
  if 0x10F000 ≤ c.toNat ∧ c.toNat < 0x10F800 then some (c.toNat - 0x10F000 + 0xD800) else none

/-- Different halves stay apart. -/
theorem half?_ofHalf {unit : Nat} (h : 0xD800 ≤ unit) (h' : unit < 0xE000) :
    half? (ofHalf unit) = some unit := by
  have hvalid : (0x10F000 + (unit - 0xD800)).isValidChar := .inr ⟨by omega, by omega⟩
  have hnat : (ofHalf unit).toNat = 0x10F000 + (unit - 0xD800) := by
    rw [ofHalf, Char.ofNat, dif_pos hvalid]
    rfl
  rw [half?, hnat, if_pos ⟨by omega, by omega⟩]
  exact congrArg some (by omega)

end Text

namespace Utf8

/-- What cannot be written of a text: the halves from a first to a last position, the first of
which is `half`. -/
structure EncodeFault where
  first : Nat
  last : Nat
  half : Nat
deriving DecidableEq, Repr

/-- The wording of a fault: the half itself is shown where there is only one. -/
def EncodeFault.message (f : EncodeFault) : String :=
  let place :=
    if f.first = f.last then
      "character '\\u" ++ String.ofList (Text.hex 4 f.half) ++ "' in position " ++
        toString f.first
    else "characters in position " ++ toString f.first ++ "-" ++ toString f.last
  "'utf-8' codec can't encode " ++ place ++ ": surrogates not allowed"

/-- The first half that is refused in a text whose first character is at `position`, with the
halves right behind it. -/
def refusedFrom (half? : Char → Option Nat) (passes : Nat → Bool) (position : Nat) :
    List Char → Option EncodeFault
  | [] => none
  | c :: rest =>
    match half? c with
    | none => refusedFrom half? passes (position + 1) rest
    | some half =>
      if passes half then refusedFrom half? passes (position + 1) rest
      else
        let more := (rest.takeWhile fun c => (half? c).isSome).length
        some ⟨position, position + more, half⟩

/-- Nothing is refused of a text exactly if all the halves in it pass. -/
theorem refusedFrom_eq_none_iff {half? : Char → Option Nat} {passes : Nat → Bool} {s : List Char} :
    ∀ {position : Nat}, refusedFrom half? passes position s = none ↔
      ∀ c ∈ s, ∀ half, half? c = some half → passes half = true := by
  induction s with
  | nil => simp [refusedFrom]
  | cons c rest ih =>
      intro position
      rw [refusedFrom]
      cases hc : half? c with
      | none => simp [ih, hc]
      | some half => by_cases hpass : passes half = true <;> simp [ih, hc, hpass]

end Utf8

end ComponentReference
