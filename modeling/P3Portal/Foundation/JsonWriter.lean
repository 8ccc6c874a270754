import P3Portal.Foundation.JsonReader

namespace P3Portal.Foundation.Json
variable {C : Type} [Annotated C]

/-- An escape whose end has not been read, with its characters. -/
inductive Pending (C : Type) where
  | plain
  | escaped (sources : List C)
  | hex (left unit : Nat) (sources : List C)

/-- Each character of a string is a code unit and the characters of the literal that spell it. -/
def decodeFrom : Pending C → List C → List (Nat × List C)
  | _, [] => []
  | .plain, c :: rest =>
      if isBackslash (char c) then decodeFrom (.escaped [c]) rest
      else ((char c).toNat, [c]) :: decodeFrom .plain rest
  | .escaped sources, c :: rest =>
      if char c = 'u' then decodeFrom (.hex 3 0 (sources ++ [c])) rest
      else ((simpleEscape (char c)).getD 0, sources ++ [c]) :: decodeFrom .plain rest
  | .hex 0 unit sources, c :: rest =>
      (16 * unit + (hexValue (char c)).getD 0, sources ++ [c]) :: decodeFrom .plain rest
  | .hex (left + 1) unit sources, c :: rest =>
      decodeFrom (.hex left (16 * unit + (hexValue (char c)).getD 0) (sources ++ [c])) rest

def isHigh (unit : Nat) : Bool := 0xd800 ≤ unit && unit < 0xdc00

def isLow (unit : Nat) : Bool := 0xdc00 ≤ unit && unit < 0xe000

/-- The two halves of a pair of surrogates are one character. -/
def joinPairs : List (Nat × List C) → List (Nat × List C)
  | high :: low :: rest =>
      if isHigh high.1 && isLow low.1 then
        (0x10000 + 1024 * (high.1 - 0xd800) + (low.1 - 0xdc00), high.2 ++ low.2) :: joinPairs rest
      else high :: joinPairs (low :: rest)
  | units => units

def decode (content : List C) : List (Nat × List C) := joinPairs (decodeFrom .plain content)

/-- The string that a literal spells. -/
def spelled (content : List C) : List Nat := (decode content).map Prod.fst

/-- A later member of the same name gives its value to the first one. -/
def addMember (members : List (List C × Document C)) (member : List C × Document C) : List (List C × Document C) :=
  if members.any fun stored => spelled stored.1 = spelled member.1 then
    members.map fun stored => if spelled stored.1 = spelled member.1 then (stored.1, member.2) else stored
  else members ++ [member]

mutual

/-- `json.loads` makes each object a dictionary. -/
def dicts : Document C → Document C
  | .atom text => .atom text
  | .literal content => .literal content
  | .array items => .array (dictsItems items)
  | .object members => .object ((dictsMembers members).foldl addMember [])

def dictsItems : List (Document C) → List (Document C)
  | [] => []
  | item :: rest => dicts item :: dictsItems rest

def dictsMembers : List (List C × Document C) → List (List C × Document C)
  | [] => []
  | (key, value) :: rest => (key, dicts value) :: dictsMembers rest

end

theorem dictsItems_eq (items : List (Document C)) : dictsItems items = items.map dicts := by
  induction items with
  | nil => rfl
  | cons item rest ih => exact congrArg (dicts item :: ·) ih

theorem dictsMembers_eq (members : List (List C × Document C)) :
    dictsMembers members = members.map fun member => (member.1, dicts member.2) := by
  induction members with
  | nil => rfl
  | cons member rest ih => exact congrArg ((member.1, dicts member.2) :: ·) ih

/-- `json.loads` for a text; none stands for an error of the decoder. -/
def loads (text : List C) : Option (Document C) := (readDocument text).map dicts

/-- A surrogate that stands alone is escaped like other units. -/
def escapeUnit (unit : Nat) : List Char :=
  if isHigh unit || isLow unit then unicodeEscape unit else escape (Char.ofNat unit)

def fresh (text : List Char) : List C := text.map (write [])

def dumpsLiteral (content : List C) : List C :=
  write [] (Char.ofNat 34) ::
    (decode content).flatMap (fun unit => (escapeUnit unit.1).map (write unit.2)) ++ [write [] (Char.ofNat 34)]

section Numbers
variable (numberText : List Char → List Char)

/-- Words are written as they are read, and numbers as the number that was read prints. -/
def dumpsAtom (text : List C) : List C :=
  (if text.map char ∈ words then text.map char else numberText (text.map char)).map (write text)

mutual

/-- `json.dumps` with its separators. -/
def dumps : Document C → List C
  | .atom text => dumpsAtom numberText text
  | .literal content => dumpsLiteral content
  | .array items => fresh ['['] ++ dumpsItems items ++ fresh [']']
  | .object members => fresh [Char.ofNat 123] ++ dumpsMembers members ++ fresh [Char.ofNat 125]

def dumpsItems : List (Document C) → List C
  | [] => []
  | item :: rest => dumps item ++ (if rest.isEmpty then [] else fresh [',', ' ']) ++ dumpsItems rest

def dumpsMembers : List (List C × Document C) → List C
  | [] => []
  | (key, value) :: rest => dumpsLiteral key ++ fresh [':', ' '] ++ dumps value ++
      (if rest.isEmpty then [] else fresh [',', ' ']) ++ dumpsMembers rest

end

end Numbers
end P3Portal.Foundation.Json
