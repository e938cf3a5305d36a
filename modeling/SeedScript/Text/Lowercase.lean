import SeedScript.Text.CaseTable

/-!
# Lower case

Lower case is taken character by character, with two exceptions: the dotted capital I becomes an i
and a combining dot, and a capital sigma that ends a word becomes the final sigma.
-/

namespace SeedScript.Text

/-- Whether a range maps the character with this code. -/
def CaseRange.maps (r : CaseRange) (code : Nat) : Bool :=
  r.first ≤ code && code ≤ r.last && (code - r.first) % r.step == 0

/-- The lower case of a character, where it is one character. -/
def lowercaseChar (c : Char) : Char :=
  match lowercaseRanges.find? fun r => r.maps c.toNat with
  | some r => Char.ofNat ((c.toNat : Int) + r.offset).toNat
  | none => c

def inRanges (ranges : List (Nat × Nat)) (c : Char) : Bool :=
  ranges.any fun r => r.1 ≤ c.toNat && c.toNat ≤ r.2

/-- Whether the first character that counts has case. -/
def beginsCased (cs : List Char) : Bool :=
  match cs.dropWhile (inRanges caseIgnorableRanges) with
  | c :: _ => inRanges casedRanges c
  | [] => false

/-- The lower case of a text whose preceding characters are `before`, back to front. -/
def lowercaseFrom : (before : List Char) → List Char → List Char
  | _, [] => []
  | before, c :: cs =>
    let lower :=
      if c = 'Σ' then [if beginsCased before && !beginsCased cs then 'ς' else 'σ']
      else if c = 'İ' then ['i', '\u0307']
      else [lowercaseChar c]
    lower ++ lowercaseFrom (c :: before) cs

def lowercase (text : String) : String := String.ofList (lowercaseFrom [] text.toList)

end SeedScript.Text
