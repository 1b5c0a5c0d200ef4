import ClusterRig.Shell.Escape
import ClusterRig.Shell.Tool.Options

/-!
# Exchanging characters

Sets of characters are written as characters, ranges, repetitions and named classes.
Characters of a first set are exchanged for those at the same places of a second
one, deleted, or left out where they repeat.
-/

namespace ClusterRig
namespace Shell
namespace Tool
namespace Characters

/-- A part of a set. A repetition without a number goes on as far as needed. -/
inductive Item
  | char (c : Char)
  | range (a b : Char)
  | named (name : List Char) (members : Char → Bool)
  | equivalent (c : Char)
  | repeated (c : Char) (times : Option Nat)

def octets : List Char := (List.range 256).map Char.ofNat

namespace Item

/-- The characters of an item, in order. -/
def chars : Item → List Char
  | .char c => [c]
  | .range a b => (List.range' a.toNat (b.toNat + 1 - a.toNat)).map Char.ofNat
  | .named _ members => octets.filter members
  | .equivalent c => [c]
  | .repeated c times => List.replicate (times.getD 0) c

def isOpen : Item → Bool
  | .repeated _ none => true
  | _ => false

def isEquivalent : Item → Bool
  | .equivalent _ => true
  | _ => false

def isNamed : Item → Bool
  | .named _ _ => true
  | _ => false

/-- Whether an item is the class of small or of capital letters. -/
def case? : Item → Option Bool
  | .named name _ =>
    match String.ofList name with
    | "lower" => some false
    | "upper" => some true
    | _ => none
  | _ => none

end Item

/-! ## Reading a set -/

/-- A character of a set as it is written, and whether a backslash stands before it. -/
structure Written where
  quoted : Bool
  char : Char

/-- Resolve the backslashes. -/
def written : Nat → List Char → List Written
  | 0, _ => []
  | _, [] => []
  | _, ['\\'] => [⟨false, '\\'⟩]
  | fuel + 1, '\\' :: c :: rest =>
    if Escape.isOctal c then
      let ds := ((c :: rest).take 3).takeWhile Escape.isOctal
      let ds := if Integer.ofDigits 8 ds < 256 then ds else ds.take 2
      ⟨true, Escape.octet 8 ds⟩ :: written fuel ((c :: rest).drop ds.length)
    else
      let d := match c with
        | 'e' => 'e'
        | c => (Escape.ofLetter? c).getD c
      ⟨true, d⟩ :: written fuel rest
  | fuel + 1, c :: rest => ⟨false, c⟩ :: written fuel rest

def isPlain (w : Written) (c : Char) : Bool := !w.quoted && w.char == c

/-- The text up to a sign and a closing bracket, and what follows these. -/
def upToSign (sign : Char) : List Written → Option (List Char × List Written)
  | a :: b :: rest =>
    if isPlain a sign && isPlain b ']' then some ([], rest)
    else (upToSign sign (b :: rest)).map fun (s, rest) => (a.char :: s, rest)
  | _ => none

/-- A character that is repeated, after the opening bracket. The inner result tells of a
number that is none. -/
def repetition? (ws : List Written) : Option (Except (List Char) (Item × List Written)) :=
  match ws with
  | c :: star :: rest =>
    if isPlain star '*' then
      let ds := rest.takeWhile fun w => !w.quoted && w.char != ']'
      match rest.drop ds.length with
      | w :: after =>
        if isPlain w ']' then
          let digits := ds.map Written.char
          let base := if digits.head? = some '0' then 8 else 10
          some (if digits.isEmpty then .ok (.repeated c.char none, after)
            else if digits.all fun d => Text.isDigit d && Integer.digit d < base then
              let n := Integer.ofDigits base digits
              .ok (.repeated c.char (if n = 0 then none else some n), after)
            else .error ("invalid repeat count ".toList ++ Quoting.text digits
              ++ " in [c*n] construct".toList))
        else none
      | [] => none
    else none
  | _ => none

/-- Whether a star, digits and a closing bracket follow. -/
def isRepetitionTail : List Written → Bool
  | w :: rest =>
    isPlain w '*' && match rest.dropWhile fun w => !w.quoted && Text.isDigit w.char with
      | w :: _ => isPlain w ']'
      | [] => false
  | [] => false

/-- A class after its opening bracket. -/
def class? (ws : List Written) : Option (Except (List Char) (Item × List Written)) :=
  match ws with
  | w :: rest =>
    let sign := w.char
    if w.quoted || !(sign == ':' || sign == '=') then none
    else
      match upToSign sign rest with
      | none => none
      | some (name, after) =>
        let item? : Except (List Char) Item :=
          if sign == ':' then
            if name.isEmpty then .error "missing character class name '[::]'".toList
            else match namedClass? name with
              | some members => .ok (.named name members)
              | none =>
                .error ("invalid character class ".toList ++ Quoting.text (Quoting.escaped name))
          else match name with
            | [] => .error "missing equivalence class character '[==]'".toList
            | [c] => .ok (.equivalent c)
            | _ => .error (name
                ++ ": equivalence class operand must be a single character".toList)
        match item? with
        | .ok item => some (.ok (item, after))
        | .error why => if isRepetitionTail rest then none else some (.error why)
  | [] => none

/-- The items of a set. Its last two characters always stand for themselves. -/
def items : Nat → List Written → Except (List Char) (List Item)
  | 0, _ => .ok []
  | fuel + 1, a :: b :: c :: rest =>
    let bracketed : Option (Except (List Char) (Item × List Written)) :=
      if isPlain a '[' then
        match class? (b :: c :: rest) with
        | some found => some found
        | none => repetition? (b :: c :: rest)
      else none
    match bracketed with
    | some (.ok (item, rest)) => do return item :: (← items fuel rest)
    | some (.error why) => .error why
    | none =>
      if isPlain b '-' then
        if c.char < a.char then
          let shown (c : Char) : List Char :=
            if Quoting.isVisible c then [c] else '\\' :: Quoting.octal c
          .error ("range-endpoints of '".toList ++ shown a.char ++ '-' :: shown c.char
            ++ "' are in reverse collating sequence order".toList)
        else do return .range a.char c.char :: (← items fuel rest)
      else do return .char a.char :: (← items fuel (b :: c :: rest))
  | _, ws => .ok (ws.map fun w => .char w.char)

def set (s : List Char) : Except (List Char) (List Item) :=
  items (s.length + 1) (written (s.length + 1) s)

/-- What is doubtful in a set: three octal digits that are no octet, and a backslash at
the end that quotes nothing. -/
def warnings : Nat → List Char → List (List Char)
  | 0, _ => []
  | _, [] => []
  | _, ['\\'] => ["an unescaped backslash at end of string is not portable".toList]
  | fuel + 1, '\\' :: rest =>
    let ds := (rest.take 3).takeWhile Escape.isOctal
    if 256 ≤ Integer.ofDigits 8 ds then
      ("the ambiguous octal escape \\".toList ++ ds
        ++ " is being\n\tinterpreted as the 2-byte sequence \\0".toList ++ ds.take 2 ++ ", ".toList
        ++ ds.drop 2) :: warnings fuel (rest.drop 2)
    else warnings fuel (rest.drop 1)
  | fuel + 1, _ :: rest => warnings fuel rest

def charsOf (items : List Item) : List Char := items.flatMap Item.chars

/-- The characters that are not in a set. -/
def others (set : List Char) : List Char := octets.filter fun c => !set.contains c

/-! ## Checking two sets against each other -/

/-- The second set with its open repetition as long as the first set needs. -/
def fitted (length : Nat) (second : List Item) : List Item :=
  let rest := length - (charsOf second).length
  second.map fun
    | .repeated c none => .repeated c (some rest)
    | item => item

/-- The places of an item among the characters, with whether it is a class of letters. -/
def cases : Nat → List Item → List (Nat × Bool)
  | _, [] => []
  | n, item :: rest =>
    let more := cases (n + item.chars.length) rest
    match item.case? with
    | some upper => (n, upper) :: more
    | none => more

/-- Classes of letters in the second set stand at places of such classes in the first, as
far as that goes. -/
def aligned (first second : List Item) : Bool :=
  let places := (cases 0 first).map Prod.fst
  let length := (charsOf first).length
  (cases 0 second).all fun (n, _) => length < n || places.contains n

/-- The second set made as long as the first. -/
def extended (length : Nat) (second : List Char) : List Char :=
  match second.getLast? with
  | some c => second ++ List.replicate (length - second.length) c
  | none => second

/-- What is exchanged for what, the later pairs first. -/
abbrev Exchange := List (Char × Char)

/-- Pair the characters of two sets. Two classes of letters at the same place change the
case of letters. -/
def pairs (first second : List Item) (chars : List Char) : Exchange :=
  let upper := cases 0 first
  let lower := cases 0 second
  let firstChars := charsOf first
  let plain := firstChars.zip chars
  let changed := lower.flatMap fun (n, isUpper) =>
    match upper.lookup n with
    | some wasUpper =>
      if wasUpper = isUpper then []
      else (octets.filter fun c => if isUpper then c.isLower else c.isUpper).map fun c =>
        (c, if isUpper then c.toUpper else c.toLower)
    | none => []
  let inCase (n : Nat) : Bool := lower.any fun (m, _) => m ≤ n && n < m + 26
  changed ++ ((plain.zipIdx.filter fun (_, n) => !inCase n).map Prod.fst).reverse

def exchange (pairs : Exchange) (c : Char) : Char := (pairs.lookup c).getD c

/-- Keep one of several equal characters in a row, if they are in the set. -/
def squeeze (set : List Char) : List Char → List Char
  | a :: b :: rest =>
    if a = b ∧ set.contains a then squeeze set (b :: rest) else a :: squeeze set (b :: rest)
  | s => s

/-- What is wrong with a second set where characters are exchanged. -/
def objection? (complement shortened : Bool) (first second : List Item) (length : Nat) :
    Option String :=
  let chars := charsOf second
  if second.any Item.isEquivalent then
    some "[=c=] expressions may not appear in string2 when translating"
  else if second.any fun i => i.isNamed && i.case?.isNone then
    some ("when translating, the only character classes that may appear in\n"
      ++ "string2 are 'upper' and 'lower'")
  else if !complement && !aligned first second then
    some "misaligned [:upper:] and/or [:lower:] construct"
  else if chars.length < length && !shortened then
    if chars.isEmpty then some "when not truncating set1, string2 must be non-empty"
    else if second.getLast?.any Item.isNamed then
      some ("when translating with string1 longer than string2,\n"
        ++ "the latter string must not end with a character class")
    else none
  else none

/-- The exchange of two sets, or what is wrong with them. -/
def exchangeOf (complement shortened : Bool) (first second : List Item) :
    Except String Exchange :=
  let domain := if complement then others (charsOf first) else charsOf first
  let second := fitted domain.length second
  match objection? complement shortened first second domain.length with
  | some why => .error why
  | none =>
    let chars := charsOf second
    let long := if shortened then chars else extended domain.length chars
    if complement then
      if first.any Item.isNamed && !(long.length = domain.length && long.all (some · == long.head?))
      then .error ("when translating with complemented character classes,\n"
        ++ "string2 must map all characters in the domain to one")
      else .ok (domain.zip long)
    else .ok (pairs first second long)

/-! ## The program -/

def flags : List Flag :=
  [⟨'c', ["complement"], .nothing⟩, ⟨'C', [], .nothing⟩, ⟨'d', ["delete"], .nothing⟩,
    ⟨'s', ["squeeze-repeats"], .nothing⟩, ⟨'t', ["truncate-set1"], .nothing⟩]

/-- What is wrong with the number of sets. -/
def miscount? (u : Usage) : Option (List Char) :=
  let delete := u.has 'd'
  let squeezes := u.has 's'
  let least := if delete = squeezes then 2 else 1
  let most := if delete && !squeezes then 1 else 2
  let n := u.operands.length
  if n = 0 then some "missing operand".toList
  else if n < least then
    some ("missing operand after ".toList ++ Quoting.text (u.operands.getLastD []) ++ ['\n']
      ++ (if squeezes then "Two strings must be given when both deleting and squeezing repeats."
        else "Two strings must be given when translating.").toList)
  else if most < n then
    some ("extra operand ".toList ++ Quoting.text (u.operands[most]?.getD [])
      ++ (if n = 2 then
        "\nOnly one string may be given when deleting without squeezing repeats.".toList else []))
  else none

/-- What the options make of an input. -/
def change (u : Usage) : Except (List Char) (List Char → List Char) := do
  let complement := u.has 'c' || u.has 'C'
  let first ← set (u.operands.headD [])
  let chars := if complement then others (charsOf first) else charsOf first
  let isOpen := first.any Item.isOpen
  let openFirst := "the [c*] repeat construct may not appear in string1".toList
  match u.operands with
  | [_, s] =>
    let second ← set s
    if isOpen then throw openFirst
    if 1 < (second.filter Item.isOpen).length then
      throw "only one [c*] repeat construct may appear in string2".toList
    if u.has 'd' then
      if second.any Item.isOpen then
        throw "the [c*] construct may appear in string2 only when translating".toList
      return fun input => squeeze (charsOf second) (input.filter fun c => !chars.contains c)
    else
      match exchangeOf complement (u.has 't') first second with
      | .error why => throw why.toList
      | .ok pairs =>
        let table := octets.map (exchange pairs)
        let exchanged (input : List Char) := input.map fun c => (table[c.toNat]?).getD c
        let last := charsOf (fitted chars.length second)
        return fun input =>
          if u.has 's' then squeeze last (exchanged input) else exchanged input
  | _ =>
    if isOpen then throw openFirst
    if u.has 'd' then return fun input => input.filter fun c => !chars.contains c
    else return fun input => squeeze chars input

def run (name : Name) (u : Usage) (p : Process) : Process :=
  match miscount? u with
  | some what => misuse name what p 1
  | none =>
    let read := match set (u.operands.headD []) with
      | .ok _ => u.operands
      | .error _ => u.operands.take 1
    let p := (read.flatMap fun s => warnings s.length s).foldl (fun p what =>
      report name ("warning: ".toList ++ what) p) p
    match change u with
    | .error what => failure name what p
    | .ok f =>
      match p.blocked with
      | some why => failure name ("read error: ".toList ++ why.toList) p
      | none => p.taken.print (f p.input)

def program : Program := Tool.program flags false run

end Characters
end Tool
end Shell
end ClusterRig
