import Census.Text.Blank
/-! Files of settings: lines `NAME=value`, with comments, quotes and references to other names. A
line that cannot be read is skipped. -/
namespace Census.Dotenv

open Census.Text

def isBreak (c : Char) : Bool :=
  c == '\n'

/-- A blank that does not end the line. -/
def isInner (c : Char) : Bool :=
  isBlank c && !isBreak c

def skipInner (cs : List Char) : List Char :=
  cs.dropWhile isInner

def singleQuote : Char := Char.ofNat 0x27
def doubleQuote : Char := Char.ofNat 0x22

/-- A quoted text after its first quote, and what follows its last. A backslash goes with the
character after it, which may not be the end of a line. -/
def quotedText (quote : Char) : List Char → Option (List Char × List Char)
  | [] => none
  | ['\\'] => none
  | '\\' :: c :: cs =>
    if isBreak c then none
    else (quotedText quote cs).map fun (text, rest) => ('\\' :: c :: text, rest)
  | c :: cs =>
    if c = quote then some ([], cs)
    else (quotedText quote cs).map fun (text, rest) => (c :: text, rest)

def escaped? (c : Char) : Option Char :=
  if c = '\\' ∨ c = singleQuote ∨ c = doubleQuote then some c
  else if c = 'a' then some (Char.ofNat 7)
  else if c = 'b' then some (Char.ofNat 8)
  else if c = 'f' then some (Char.ofNat 12)
  else if c = 'n' then some '\n'
  else if c = 'r' then some '\r'
  else if c = 't' then some '\t'
  else if c = 'v' then some (Char.ofNat 11)
  else none

/-- In texts between single quotes only backslashes and single quotes are escaped. -/
def escapedSimply? (c : Char) : Option Char :=
  if c = '\\' ∨ c = singleQuote then some c else none

def unescape (escape : Char → Option Char) : List Char → List Char
  | [] => []
  | '\\' :: c :: cs =>
    match escape c with
    | some e => e :: unescape escape cs
    | none => '\\' :: unescape escape (c :: cs)
  | c :: cs => c :: unescape escape cs

/-- An unquoted value ends before blanks with a number sign after them. -/
def cutComment : List Char → List Char
  | [] => []
  | c :: cs =>
    if isBlank c ∧ ((c :: cs).dropWhile isBlank).head? = some '#' then []
    else c :: cutComment cs

def plainValue (cs : List Char) : List Char × List Char :=
  let line := cs.takeWhile fun d => !isBreak d
  (trimBy isBlank (cutComment line), cs.drop line.length)

def readValue (cs : List Char) : Option (List Char × List Char) :=
  match skipInner cs with
  | [] => some ([], [])
  | c :: rest =>
    if c = singleQuote then
      (quotedText singleQuote rest).map fun (t, rest) => (unescape escapedSimply? t, rest)
    else if c = doubleQuote then
      (quotedText doubleQuote rest).map fun (t, rest) => (unescape escaped? t, rest)
    else some (plainValue cs)

def readName (cs : List Char) : Option (Option (List Char) × List Char) :=
  match cs with
  | [] => none
  | c :: rest =>
    if c = '#' then some (none, cs)
    else if c = singleQuote then
      let name := rest.takeWhile (· ≠ singleQuote)
      match name, rest.drop name.length with
      | _ :: _, _ :: rest => some (some name, rest)
      | _, _ => none
    else
      let name := cs.takeWhile fun d => d ≠ '=' && d ≠ '#' && !isBlank d
      if name.isEmpty then none else some (some name, cs.drop name.length)

def skipExport (cs : List Char) : List Char :=
  let word := "export".toList
  let rest := cs.drop word.length
  if word.isPrefixOf cs && (rest.head?.map isInner).getD false then skipInner rest else cs

def endLine (cs : List Char) : Option (List Char) :=
  let rest := skipInner cs
  let rest := if rest.head? = some '#' then rest.dropWhile fun c => !isBreak c else rest
  match rest with
  | [] => some []
  | c :: rest => if isBreak c then some rest else none

def skipLine (cs : List Char) : List Char :=
  (cs.dropWhile fun c => !isBreak c).drop 1

structure Binding where
  name : Option (List Char)
  value : Option (List Char)

/-- One binding; where it cannot be read, what is left of it. -/
def readBinding (cs : List Char) : Except (List Char) (Binding × List Char) :=
  let cs := skipExport cs
  match readName cs with
  | none => .error cs
  | some (name, rest) =>
    let rest := skipInner rest
    match rest with
    | '=' :: after =>
      match readValue after with
      | none => .error after
      | some (value, rest) =>
        match endLine rest with
        | some rest => .ok (⟨name, some value⟩, rest)
        | none => .error rest
    | _ =>
      match endLine rest with
      | some rest => .ok (⟨name, none⟩, rest)
      | none => .error rest

/-- All bindings of a file; every one takes at least a character. -/
def bindings : (fuel : Nat) → List Char → List (String × Option String)
  | 0, _ => []
  | fuel + 1, cs =>
    match cs.dropWhile isBlank with
    | [] => []
    | cs =>
      match readBinding cs with
      | .error rest => bindings fuel (skipLine rest)
      | .ok (⟨none, _⟩, rest) => bindings fuel rest
      | .ok (⟨some name, value⟩, rest) =>
        (String.ofList name, value.map String.ofList) :: bindings fuel rest

/-- Replaces references such as a dollar sign with a name in braces; after a colon and a dash a
reference has a default. -/
def substitute (value : String → Option String) : (fuel : Nat) → List Char → List Char
  | 0, cs => cs
  | fuel + 1, cs =>
    match cs with
    | [] => []
    | '$' :: '\x7b' :: rest =>
      let name := rest.takeWhile fun c => c ≠ '\x7d' && c ≠ ':'
      let found := value (String.ofList name)
      match rest.drop name.length with
      | '\x7d' :: rest => (found.getD "").toList ++ substitute value fuel rest
      | ':' :: '-' :: tail =>
        let fallback := tail.takeWhile (· ≠ '\x7d')
        match tail.drop fallback.length with
        | _ :: rest => (found.getD (String.ofList fallback)).toList ++ substitute value fuel rest
        | [] => '$' :: substitute value fuel ('\x7b' :: rest)
      | _ => '$' :: substitute value fuel ('\x7b' :: rest)
    | c :: rest => c :: substitute value fuel rest

/-- Resolves the references of the bindings in order. Earlier bindings go before the environment,
and a name without a value is empty. -/
def resolve (env : List (String × String)) :
    (known : List (String × Option String)) → List (String × Option String) →
      List (String × Option String)
  | known, [] => known.reverse
  | known, (name, value) :: rest =>
    let lookup (n : String) : Option String :=
      match known.lookup n with
      | some v => some (v.getD "")
      | none => env.lookup n
    let value := value.map fun v => String.ofList (substitute lookup (v.length + 1) v.toList)
    resolve env ((name, value) :: known) rest

def read (env : List (String × String)) (text : String) : List (String × Option String) :=
  let cs := unifyLines text.toList
  resolve env [] (bindings (cs.length + 1) cs)

end Census.Dotenv
