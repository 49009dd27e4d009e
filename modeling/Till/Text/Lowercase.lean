import Till.Text.CaseTable

/-!
# Lower case

A text is put into lower case character by character.  Two letters need more than
a table: a capital I with a dot becomes two characters, and a capital sigma is
written in its final form where it ends a word.

Main results:

- Theorem {lit}`Lowercase.ofChar_ascii`: ASCII characters become what the ASCII rule
  says.
-/

namespace Till
namespace Lowercase

/-- The nearest character that counts as a part of a word is a letter. -/
def meetsLetter (cs : List Char) : Bool :=
  match cs.dropWhile CaseTable.isIgnorable with
  | [] => false
  | c :: _ => CaseTable.isCased c

/-- A capital sigma ends a word when a letter comes before it and none after it.
What comes before is held last character first. -/
def sigma (before after : List Char) : Char :=
  if meetsLetter before && !meetsLetter after then 'ς' else 'σ'

/-- A character other than a capital sigma in lower case. -/
def ofChar (c : Char) : List Char :=
  if c = 'İ' then ['i', '\u0307']
  else
    match CaseTable.lower? c.toNat with
    | some n => [Char.ofNat n]
    | none => [c]

/-- The characters after `before`, which is held last character first, put in lower
case behind `done`, which is held last character first too. -/
def writeAfter (done before : List Char) : List Char → List Char
  | [] => done.reverse
  | c :: after =>
    if c = 'Σ' then writeAfter (sigma before after :: done) (c :: before) after
    else writeAfter ((ofChar c).reverse ++ done) (c :: before) after

/-- A row of characters in lower case. -/
def ofChars (cs : List Char) : List Char :=
  writeAfter [] [] cs

/-- What holds of all ASCII characters is checked code by code. -/
theorem of_ascii {P : Char → Prop} {c : Char} (h : ∀ n : Fin 128, P (Char.ofNat n))
    (hc : c.toNat < 128) : P c := by
  have hcode := h ⟨c.toNat, hc⟩
  rwa [show Char.ofNat c.toNat = c from Char.ofNat_toNat c] at hcode

/-- An ASCII character becomes what the ASCII rule says. -/
theorem ofChar_ascii {c : Char} (h : c.toNat < 128) : ofChar c = [c.toLower] :=
  of_ascii (P := fun c => ofChar c = [c.toLower]) (by decide +kernel) h

end Lowercase
end Till
