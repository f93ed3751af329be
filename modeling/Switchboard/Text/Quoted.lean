import Switchboard.Text.Printable

/-!
Quoted text: a string between double quotes, with what cannot stand as it is escaped.

Five characters have a short escape (`shortEscape`), the other characters that
are not plain are written by their code point in hexadecimal, and all else
stands for itself. `ofHex_hex` says that the hexadecimal digits give the code
point back.
-/

namespace Switchboard.Text

/-! ### Hexadecimal digits -/

/-- The lower-case digit for a number below sixteen. -/
def hexDigit (n : Nat) : Char :=
  if n < 10 then Char.ofNat (0x30 + n) else Char.ofNat (0x57 + n)

/-- The value of a lower-case hexadecimal digit. -/
def hexDigitValue (c : Char) : Nat :=
  if c.toNat < 0x3a then c.toNat - 0x30 else c.toNat - 0x57

theorem hexDigitValue_hexDigit {n : Nat} (small : n < 16) : hexDigitValue (hexDigit n) = n := by
  have all : ∀ m : Fin 16, hexDigitValue (hexDigit m) = m := by decide
  exact all ⟨n, small⟩

/-- Hexadecimal digits of a number, most significant first and without leading zeros. -/
def hex (n : Nat) : List Char :=
  if n < 16 then [hexDigit n] else hex (n / 16) ++ [hexDigit (n % 16)]

/-- The number that hexadecimal digits stand for. -/
def ofHex (digits : List Char) : Nat :=
  digits.foldl (fun value c => 16 * value + hexDigitValue c) 0

theorem ofHex_hex (n : Nat) : ofHex (hex n) = n := by
  induction n using Nat.strongRecOn with
  | ind n ih =>
    rw [hex]
    split
    · rename_i small
      simp [ofHex, hexDigitValue_hexDigit small]
    · rename_i large
      have shorter := ih (n / 16) (by omega)
      simp only [ofHex] at shorter
      simp only [ofHex, List.foldl_append, shorter, List.foldl_cons, List.foldl_nil,
        hexDigitValue_hexDigit (Nat.mod_lt n (by decide : 0 < 16))]
      omega

theorem hex_injective {m n : Nat} (same : hex m = hex n) : m = n := by
  rw [← ofHex_hex m, same, ofHex_hex n]

/-! ### Escapes -/

/-- The letter that stands after the backslash for a character with a short escape. -/
def shortEscape (c : Char) : Option Char :=
  if c = '\x00' then some '0'
  else if c = '\t' then some 't'
  else if c = '\n' then some 'n'
  else if c = '\r' then some 'r'
  else if c = '"' then some '"'
  else if c = '\\' then some '\\'
  else none

/-- One character as it stands between the quotes. -/
def escape (c : Char) : List Char :=
  match shortEscape c with
  | some letter => ['\\', letter]
  | none =>
    if isPlain c then [c]
    else ['\\', 'u', '\x7b'] ++ hex c.toNat ++ ['\x7d']

/-- The characters of a quoted text, quotes included. -/
def quote (cs : List Char) : List Char :=
  '"' :: cs.flatMap escape ++ ['"']

/-- A string in double quotes. -/
def quoted (s : String) : String :=
  String.ofList (quote s.toList)

@[simp] theorem toList_quoted (s : String) : (quoted s).toList = quote s.toList := by
  simp [quoted]

@[simp] theorem quote_nil : quote [] = ['"', '"'] := rfl

end Switchboard.Text
