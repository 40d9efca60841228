import PipeShell.Machine.Tool.SortForm

/-!
# Notes on sorting

What the tool that sorts tells about its keys when it is asked to: first what may be wrong with them,
then for each line which part of it belongs to each key.
-/

namespace PipeShell.Machine.Sort
open SortKey

/-! ## Notes on keys -/

def endField (key : Key) : Option Nat := key.last.map fun (field, _) => field + 1

def olderNote? (k : Conventions) (key : Key) : Option Octets :=
  if !key.isOlder then none
  else
    let beginning := toString key.field
    let older := match endField key with
      | some last => "+" ++ beginning ++ " -" ++ toString last
      | none => "+" ++ beginning
    let newer := match endField key with
      | some last => "-k " ++ toString (key.field + 1) ++ "," ++ toString last
      | none => "-k " ++ toString (key.field + 1)
    some ("obsolescent key " ++ k.quoted older ++ " used; consider " ++ k.quoted newer ++ " instead")

def hasNoWidth (key : Key) : Bool := !key.isFromStart && (endField key).any (· ≤ key.field)

def spansFields (key : Key) : Bool := (endField key).all (key.field + 1 < ·)

def countsBlanks (f : Form) (key : Key) : Bool :=
  let skipsAnyway := key.rules.isNumeric || key.rules.month
  let lastOffset := (key.last.map Prod.snd).getD 0
  let endsInFirst := (key.last.map Prod.fst) = some 0 && lastOffset ≠ 0
  !hasNoWidth key && f.separator.isNone && !endsInFirst
    && ((!key.rules.skipsStart && !skipsAnyway) || (!key.rules.skipsStart && key.offset ≠ 0)
      || (!key.rules.skipsEnd && lastOffset ≠ 0))

def keyNotes (k : Conventions) (f : Form) (key : Key) (number : Nat) : List Octets :=
  let n := toString number
  let isWhole := f.keys.isEmpty
  (olderNote? k key).toList
    ++ (if hasNoWidth key then ["key " ++ n ++ " has zero width and will be ignored"] else [])
    ++ (if !isWhole && countsBlanks f key then
        ["leading blanks are significant in key " ++ n ++ "; consider also specifying \x27b\x27"] else [])
    ++ (if !isWhole && key.rules.isNumeric && spansFields key then
        ["key " ++ n ++ " is numeric and spans multiple fields"] else [])

def numberNotes (k : Conventions) (f : Form) : List Octets :=
  let numeric := f.allKeys.filter (·.rules.isNumeric)
  let spanning := if f.keys.isEmpty then [] else numeric.filter spansFields
  let shown (c : Char) : Octets := k.quoted c.toString
  let isSeparator (c : Char) : Bool := f.separator = some (UInt8.ofNat c.toNat)
  let treated (c : Char) (what : Octets) : List Octets :=
    ["field separator " ++ shown c ++ " is treated as a " ++ what ++ " in numbers"]
  let hasPoint := isSeparator '.' && !spanning.isEmpty
  let separators :=
    if spanning.isEmpty then []
    else if isSeparator '.' then treated '.' "decimal point"
    else if isSeparator '-' then treated '-' "minus sign"
    else if isSeparator '+' && spanning.any (·.rules.general) then treated '+' "plus sign"
    else []
  let point :=
    if numeric.isEmpty || hasPoint then []
    else
      [(if isSeparator '.' then "" else "note ") ++ "numbers use " ++ shown '.'
        ++ " as a decimal point in this locale"]
  separators ++ point

def unusedRules (f : Form) : Rules :=
  f.allKeys.foldl (fun r key =>
    let used := key.rules
    let selects (r : Rules) : Option Char :=
      if r.dictionary then some 'd' else if r.printable then some 'i' else none
    let isSelected := selects r = selects used
    { numeric := r.numeric && !used.numeric
      general := r.general && !used.general
      human := r.human && !used.human
      month := r.month && !used.month
      random := r.random && !used.random
      version := r.version && !used.version
      folds := r.folds && !used.folds
      dictionary := r.dictionary && !isSelected
      printable := r.printable && !isSelected
      reversed := r.reversed && !used.reversed
      skipsStart := r.skipsStart && !used.skipsStart
      skipsEnd := r.skipsEnd && !used.skipsEnd }) f.rules

def unusedNotes (f : Form) : List Octets :=
  let unused := unusedRules f
  let isLast := f.unique || f.stable
  let hasKeys := !f.allKeys.isEmpty
  let ignored := { unused with reversed := unused.reversed && isLast }
  let options :=
    if unused.isDefault && !(ignored.reversed && hasKeys) then []
    else
      let letters := ignored.letters
      [if letters.length = 1 then "option \x27-" ++ letters ++ "\x27 is ignored"
        else "options \x27-" ++ letters ++ "\x27 are ignored"]
  let direction :=
    if unused.reversed && !isLast && hasKeys then
      ["option \x27-r\x27 only applies to last-resort comparison"]
    else []
  options ++ direction

def notes (k : Conventions) (f : Form) : List Octets :=
  let order := match k.order with
    | some name => "text ordering performed using " ++ k.quoted name ++ " sorting rules"
    | none => "text ordering performed using simple byte comparison"
  (if k.isKnown then [] else ["failed to set locale"]) ++ [order]
    ++ (f.allKeys.zipIdx.flatMap fun (key, i) => keyNotes k f key (i + 1))
    ++ numberNotes k f ++ unusedNotes f

/-! ## Marks under lines -/

def columnsWithin : Nat → List Char → Nat
  | 0, _ => 0
  | steps + 1, cs =>
    match cs with
    | [] => 0
    | _ :: rest =>
      match Conventions.start cs with
      | .cut => 1
      | .stray => 1 + columnsWithin steps rest
      | .character code length =>
        let isControl := code < 32 || (127 ≤ code && code < 160) || code = 0x2028 || code = 0x2029
        let width := (Conventions.columnsOf? code).getD (if isControl then 0 else 1)
        width + columnsWithin steps (cs.drop length)

def columns (k : Conventions) (bs : Bytes) : Nat :=
  let tabs := bs.countP (· = 9)
  if k.isUnicode then tabs + columnsWithin bs.length (Octets.ofBytes bs).toList
  else tabs + bs.countP fun b => 32 ≤ b && b ≠ 127

def decimalLength (isHuman : Bool) (bs : Bytes) : Nat :=
  let sign := if bs.head? = some 45 then 1 else 0
  let whole := (bs.drop sign).takeWhile isDigit
  let rest := bs.drop (sign + whole.length)
  let broken := if rest.head? = some 46 then (rest.drop 1).takeWhile isDigit else []
  if whole.isEmpty && broken.isEmpty then 0
  else
    let point := if rest.head? = some 46 then 1 + broken.length else 0
    let unit := if isHuman && unitOf (rest.drop point) ≠ 0 then 1 else 0
    sign + whole.length + point + unit

def countedLength (r : Rules) (bs : Bytes) : Nat :=
  if r.month then if monthAt bs = 0 then 0 else 3
  else if r.general then
    let text := (Octets.ofBytes (bs.takeWhile (· ≠ 0))).toList
    match Floating.read? Floating.extended text with
    | some (_, _, rest) => text.length - rest.length
    | none => 0
  else if r.numeric || r.human then decimalLength r.human bs
  else bs.length

def place (f : Form) (key : Key) (line : Bytes) : Nat × Nat :=
  let rest := if key.isFromStart then line else beginning f.separator key line
  let length := rest.length - behind f.separator key line
  let narrows := (key.rules.skipsStart && key.isFromStart) || key.rules.month || key.rules.isNumeric
  if narrows then
    let blanks := ((rest.take length).takeWhile isBlank).length
    (line.length - rest.length + blanks, countedLength key.rules ((rest.take length).drop blanks))
  else (line.length - rest.length, length)

def mark (before width : Nat) : Bytes :=
  let text := if width = 0 then "^ no match for key" else String.ofList (List.replicate width '_')
  Octets.bytes (String.ofList (List.replicate before ' ') ++ text ++ "\n")

def marked (k : Conventions) (f : Form) (line : Bytes) : Bytes :=
  let under (start length : Nat) : Bytes :=
    mark (columns k (line.take start)) (columns k ((line.drop start).take length))
  let shown := line.map fun b => if b = 9 then '>'.toNat.toUInt8 else b
  let ofKeys := f.allKeys.flatMap fun key =>
    let (start, length) := place f key line
    under start length
  let isWhole := f.allKeys.isEmpty || !(f.unique || f.stable)
  shown ++ [Text.lineFeed] ++ ofKeys ++ if isWhole then under 0 line.length else []

end PipeShell.Machine.Sort
