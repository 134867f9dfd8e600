import SlideDeck.Json5.Term
import SlideDeck.Text.Blank
import SlideDeck.Text.Letter

/-! The syntax of JSON5: comments, single quotes, names as keys, a comma behind the last item, and
more forms of numbers. Every function takes its piece from the front and gives the rest. -/

namespace SlideDeck.Json5

def isSpace (c : Char) : Bool := (Text.isBlank c && c != '\x85') || c = '\uFEFF'

inductive Gap
  | space
  | lineComment
  | blockComment

def skipGap : Gap → List Char → Option (List Char)
  | .space, [] => some []
  | .space, '/' :: '/' :: cs => skipGap .lineComment cs
  | .space, '/' :: '*' :: cs => skipGap .blockComment cs
  | .space, c :: cs => if isSpace c then skipGap .space cs else some (c :: cs)
  | .lineComment, [] => some []
  | .lineComment, c :: cs => if isLineEnd c then skipGap .space cs else skipGap .lineComment cs
  | .blockComment, [] => none
  | .blockComment, '*' :: '/' :: cs => skipGap .space cs
  | .blockComment, _ :: cs => skipGap .blockComment cs

def skip (cs : List Char) : Option (List Char) := skipGap .space cs

def before (p : Part) : Option (List Part × List Char) → Option (List Part × List Char)
  | some (ps, rest) => some (p :: ps, rest)
  | none => none

/-- The parts of a string up to the quotation mark `q`. A backslash at the end of a line leaves
the line end out. -/
def stringParts (q : Char) : List Char → Option (List Part × List Char)
  | [] => none
  | '\\' :: 'x' :: a :: b :: cs =>
    if isHexDigit a && isHexDigit b then before (.hex [a, b]) (stringParts q cs) else none
  | '\\' :: 'u' :: a :: b :: c :: d :: cs =>
    if isHexDigit a && isHexDigit b && isHexDigit c && isHexDigit d then
      before (.unit [a, b, c, d]) (stringParts q cs)
    else none
  | '\\' :: '\r' :: '\n' :: cs => stringParts q cs
  | '\\' :: c :: cs =>
    if c = '0' then before .nul (stringParts q cs)
    else if c.isDigit || c = 'x' || c = 'u' then none
    else if isLineEnd c then stringParts q cs
    else before (.escape c) (stringParts q cs)
  | c :: cs =>
    if c = q then some ([], cs)
    else if c = '\\' || isLineEnd c then none
    else before (.plain c) (stringParts q cs)

def startsName (c : Char) : Bool := Text.isLetter c || c = '$' || c = '_'

def nameParts (first : Bool) : List Char → List Part × List Char
  | [] => ([], [])
  | '\\' :: 'u' :: a :: b :: c :: d :: cs =>
    if isHexDigit a && isHexDigit b && isHexDigit c && isHexDigit d then
      let (ps, rest) := nameParts false cs
      (.unit [a, b, c, d] :: ps, rest)
    else ([], '\\' :: 'u' :: a :: b :: c :: d :: cs)
  | c :: cs =>
    if startsName c || (!first && Text.isMark c) then
      let (ps, rest) := nameParts false cs
      (.plain c :: ps, rest)
    else ([], c :: cs)

def key : List Char → Option (List Part × List Char)
  | '"' :: cs => stringParts '"' cs
  | '\x27' :: cs => stringParts '\x27' cs
  | cs =>
    match nameParts true cs with
    | ([], _) => none
    | name => some name

def after? : (word : List Char) → List Char → Option (List Char)
  | [], cs => some cs
  | w :: ws, c :: cs => if w = c then after? ws cs else none
  | _ :: _, [] => none

def signOf : List Char → List Char × List Char
  | '+' :: cs => (['+'], cs)
  | '-' :: cs => (['-'], cs)
  | cs => ([], cs)

def exponentOf : List Char → List Char × List Char
  | [] => ([], [])
  | e :: cs =>
    let (sign, digits) := signOf cs
    let (power, rest) := digits.span Char.isDigit
    if (e = 'e' || e = 'E') && !power.isEmpty then (e :: (sign ++ power), rest)
    else ([], e :: cs)

def wholeOf : List Char → List Char × List Char
  | '0' :: cs => (['0'], cs)
  | cs => cs.span Char.isDigit

def decimalOf (cs : List Char) : Option (List Char × List Char) :=
  match wholeOf cs with
  | ([], '.' :: rest) =>
    match rest.span Char.isDigit with
    | ([], _) => none
    | (fraction, rest) =>
      let (power, rest) := exponentOf rest
      some ('.' :: (fraction ++ power), rest)
  | ([], _) => none
  | (whole, '.' :: rest) =>
    let (fraction, rest) := rest.span Char.isDigit
    let (power, rest) := exponentOf rest
    some (whole ++ '.' :: (fraction ++ power), rest)
  | (whole, rest) =>
    let (power, rest) := exponentOf rest
    some (whole ++ power, rest)

def hexOf : List Char → Option (List Char × List Char)
  | '0' :: x :: cs =>
    match cs.span isHexDigit with
    | ([], _) => none
    | (digits, rest) => if x = 'x' || x = 'X' then some ('0' :: x :: digits, rest) else none
  | _ => none

def wordOf (word : String) (cs : List Char) : Option (List Char × List Char) :=
  (after? word.toList cs).map fun rest => (word.toList, rest)

def numberOf (cs : List Char) : Option (List Char × List Char) :=
  let (sign, cs) := signOf cs
  ((hexOf cs).or ((decimalOf cs).or ((wordOf "Infinity" cs).or (wordOf "NaN" cs)))).map
    fun (token, rest) => (sign ++ token, rest)

def leaf : List Char → Option (Term × List Char)
  | '"' :: cs => (stringParts '"' cs).map fun (parts, rest) => (.text parts, rest)
  | '\x27' :: cs => (stringParts '\x27' cs).map fun (parts, rest) => (.text parts, rest)
  | cs =>
    ((after? "null".toList cs).map fun rest => (.null, rest)).or
      (((after? "true".toList cs).map fun rest => (.flag true, rest)).or
        (((after? "false".toList cs).map fun rest => (.flag false, rest)).or
          ((numberOf cs).map fun (token, rest) => (.number token, rest))))

mutual

/-- A value; `fuel` bounds how many steps it may take. -/
def value (fuel : Nat) (cs : List Char) : Option (Term × List Char) :=
  match fuel, cs with
  | 0, _ => none
  | fuel + 1, '[' :: cs => do
    let (vs, rest) ← items fuel (← skip cs)
    some (.list vs, rest)
  | fuel + 1, '\x7b' :: cs => do
    let (ms, rest) ← members fuel (← skip cs)
    some (.record ms, rest)
  | _ + 1, cs => leaf cs

def items (fuel : Nat) (cs : List Char) : Option (List Term × List Char) :=
  match fuel, cs with
  | 0, _ => none
  | _ + 1, ']' :: rest => some ([], rest)
  | fuel + 1, cs => do
    let (v, rest) ← value fuel cs
    match ← skip rest with
    | ']' :: rest => some ([v], rest)
    | ',' :: rest => do
      let (vs, rest) ← items fuel (← skip rest)
      some (v :: vs, rest)
    | _ => none

def members (fuel : Nat) (cs : List Char) : Option (List (List Part × Term) × List Char) :=
  match fuel, cs with
  | 0, _ => none
  | _ + 1, '\x7d' :: rest => some ([], rest)
  | fuel + 1, cs => do
    let (k, rest) ← key cs
    match ← skip rest with
    | ':' :: rest => do
      let (v, rest) ← value fuel (← skip rest)
      match ← skip rest with
      | '\x7d' :: rest => some ([(k, v)], rest)
      | ',' :: rest => do
        let (ms, rest) ← members fuel (← skip rest)
        some ((k, v) :: ms, rest)
      | _ => none
    | _ => none

end

/-- The term that a text stands for. Every step takes a character or goes from a list or record
to what is in it, so there is fuel enough. -/
def parse? (s : String) : Option Term := do
  let cs := s.toList
  let (v, rest) ← value (2 * cs.length + 2) (← skip cs)
  match ← skip rest with
  | [] => some v
  | _ => none

end SlideDeck.Json5
