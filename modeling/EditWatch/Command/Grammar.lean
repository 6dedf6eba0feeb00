/-!
# EditWatch.Command.Grammar -- the words of a command line

A level of a command line knows named parameters, which begin with one or two dashes, at most one
place for a word without a name, and the names of further levels. A value may be the word behind
its parameter or hang on to it. Names are looked up as they come, but a value is checked only
once the next word that is no value has been understood, so an unknown name is reported before a
bad value in front of it.
-/

namespace EditWatch.Command

/-! ## Parameters -/

/-- What a parameter takes: no value, the path of a file, any text, or one of a few words. -/
inductive Domain where
  | nothing
  | path
  | text
  | oneOf (words : List String)
  deriving Repr, DecidableEq

/-- A parameter with a name of several letters and possibly a letter of its own. -/
structure Parameter where
  name : String
  letter : Option Char
  placeholder : String
  domain : Domain
  deriving Repr, DecidableEq

namespace Parameter

def takesValue (p : Parameter) : Bool := p.domain ≠ .nothing

/-- The parameter as it is shown. -/
def display (p : Parameter) : String :=
  if p.takesValue then "--" ++ p.name ++ " <" ++ p.placeholder ++ ">" else "--" ++ p.name

/-- Asks for help. -/
def help : Parameter := ⟨"help", some 'h', "", .nothing⟩

/-- Asks for the version. -/
def version : Parameter := ⟨"version", some 'V', "", .nothing⟩

end Parameter

/-- The word without a name is shown by what it stands for. -/
def displayPlace (place : String) : String := "<" ++ place ++ ">"

/-- What is understood at one level. The word without a name is the path of a file. -/
structure Level where
  parameters : List Parameter
  place : Option String
  tasks : List String
  deriving Repr, DecidableEq

namespace Level

def named? (l : Level) (name : String) : Option Parameter :=
  l.parameters.find? fun p => p.name == name

def lettered? (l : Level) (c : Char) : Option Parameter :=
  l.parameters.find? fun p => p.letter == some c

end Level

/-! ## Faults -/

/-- Why a command line is not understood. -/
inductive UsageFault where
  | unknownTask (word : String)
  | unexpected (word : String)
  | excessValue (value shown : String)
  | missingValue (shown : String)
  | invalidValue (value shown : String)
  | repeated (shown : String)
  | missingPlace (place : String)
  | missingTask (program : String)
  deriving Repr, DecidableEq

def UsageFault.message : UsageFault → String
  | .unknownTask word => "unrecognized subcommand '" ++ word ++ "'"
  | .unexpected word => "unexpected argument '" ++ word ++ "' found"
  | .excessValue value shown =>
    "unexpected value '" ++ value ++ "' for '" ++ shown ++ "' found; no more were expected"
  | .missingValue shown => "a value is required for '" ++ shown ++ "' but none was supplied"
  | .invalidValue value shown => "invalid value '" ++ value ++ "' for '" ++ shown ++ "'"
  | .repeated shown => "the argument '" ++ shown ++ "' cannot be used multiple times"
  | .missingPlace place =>
    "the following required arguments were not provided:\n  " ++ displayPlace place
  | .missingTask program => "'" ++ program ++ "' requires a subcommand but one was not provided"

/-! ## Values -/

/-- A value, or what is wrong with it. -/
def Domain.check (d : Domain) (shown value : String) : Except UsageFault Unit :=
  match d with
  | .nothing | .text => .ok ()
  | .path => if value.isEmpty then .error (.missingValue shown) else .ok ()
  | .oneOf words =>
    if words.contains value then .ok ()
    else if value.isEmpty then .error (.missingValue shown)
    else .error (.invalidValue value shown)

/-- What waits to be checked: a parameter with its value, once that is known, or the word without
a name. -/
inductive Waiting where
  | named (p : Parameter) (value : Option String)
  | placed (value : String)
  deriving Repr, DecidableEq

/-- What a level has been told: values by name, the word without a name, and what waits. -/
structure Told where
  values : List (String × String)
  place : Option String
  waiting : Option Waiting
  deriving Repr, DecidableEq

namespace Told

def nothing : Told := ⟨[], none, none⟩

/-- The value of a parameter; that of one without values is empty. -/
def value? (t : Told) (name : String) : Option String :=
  (t.values.find? fun v => v.1 == name).map Prod.snd

def has (t : Told) (name : String) : Bool := (t.value? name).isSome

/-- Whether a parameter is the last thing said and its value is still to come. -/
def awaits (t : Told) : Bool :=
  match t.waiting with
  | some (.named _ none) => true
  | _ => false

/-- A parameter told with a value, unless it has been told before. -/
def add (t : Told) (p : Parameter) (value : String) : Except UsageFault Told :=
  if t.has p.name then .error (.repeated p.display)
  else (p.domain.check p.display value).map fun _ =>
    { t with values := (p.name, value) :: t.values }

/-- What waits is checked and kept. -/
def settle (l : Level) (t : Told) : Except UsageFault Told :=
  let settled := { t with waiting := none }
  match t.waiting with
  | none => .ok t
  | some (.named p none) => .error (.missingValue p.display)
  | some (.named p (some v)) => settled.add p v
  | some (.placed v) =>
    (Domain.path.check (displayPlace (l.place.getD "")) v).map fun _ =>
      { settled with place := some v }

end Told

/-! ## Reading -/

/-- Where the reading of a level ends: behind its last word, at the name of a further level, or at
a word that asks for something else. -/
inductive End where
  | words
  | task (name : String) (rest : List String)
  | help
  | version
  deriving Repr, DecidableEq

/-- A parameter without value is acted upon at once. -/
def Level.tellFlag (l : Level) (t : Told) (p : Parameter) : Except UsageFault (Told ⊕ End) := do
  let t ← t.settle l
  if p = Parameter.help then return .inr .help
  else if p = Parameter.version then return .inr .version
  else return .inl (← t.add p "")

/-- A parameter with a value hanging on to it, or waiting for the next word. -/
def Level.tellValue (l : Level) (t : Told) (p : Parameter) (value : Option String) :
    Except UsageFault Told := do
  let t ← t.settle l
  match value with
  | some v => t.add p v
  | none => return { t with waiting := some (.named p none) }

/-- A word behind two dashes: a name, and possibly a value behind an equals sign. -/
def Level.tellName (l : Level) (t : Told) (word : List Char) : Except UsageFault (Told ⊕ End) :=
  let name := String.ofList (word.takeWhile (· ≠ '='))
  let value := (word.dropWhile (· ≠ '=')).tail?.map String.ofList
  match l.named? name with
  | none => .error (.unexpected ("--" ++ name))
  | some p =>
    if p.takesValue then (l.tellValue t p value).map .inl
    else match value with
      | some v => .error (.excessValue v p.display)
      | none => l.tellFlag t p

/-- Letters behind one dash. What follows the letter of a parameter with values is its value. -/
def Level.tellLetters (l : Level) (t : Told) : List Char → Except UsageFault (Told ⊕ End)
  | [] => .ok (.inl t)
  | c :: cs =>
    match l.lettered? c with
    | none => .error (.unexpected (String.ofList ['-', c]))
    | some p =>
      if p.takesValue then
        let value := match cs with
          | [] => none
          | '=' :: v => some (String.ofList v)
          | v => some (String.ofList v)
        (l.tellValue t p value).map .inl
      else do
        match ← l.tellFlag t p with
        | .inl t => l.tellLetters t cs
        | .inr e => return .inr e

/-- A word that nothing at the level can take. Behind two lone dashes even the name of a task is
just a word. -/
def Level.misplaced (l : Level) (named : Bool) (word : String) : UsageFault :=
  if l.tasks.isEmpty || (!named && l.tasks.contains word) then .unexpected word
  else .unknownTask word

/-- A word without a name. -/
def Level.tellPlace (l : Level) (named : Bool) (t : Told) (word : String) :
    Except UsageFault Told :=
  let taken := t.place.isSome || (match t.waiting with
    | some (.placed _) => true
    | _ => false)
  if l.place.isSome && !taken then
    (t.settle l).map fun t => { t with waiting := some (.placed word) }
  else .error (l.misplaced named word)

/-- The words of a level in order. The flag tells whether words may still name something; two
lone dashes end that. -/
def Level.read (l : Level) (named : Bool) (t : Told) : List String → Except UsageFault (Told × End)
  | [] => .ok (t, .words)
  | word :: rest =>
    if named && !t.awaits && l.tasks.contains word then .ok (t, .task word rest)
    else if named && word == "--" then l.read false t rest
    else
      let told : Except UsageFault (Told ⊕ End) :=
        match named, word.toList with
        | true, '-' :: '-' :: cs => l.tellName t cs
        | true, '-' :: c :: cs => l.tellLetters t (c :: cs)
        | _, _ =>
          match named, t.waiting with
          | true, some (.named p none) =>
            .ok (.inl { t with waiting := some (.named p (some word)) })
          | _, _ => (l.tellPlace named t word).map .inl
      match told with
      | .error f => .error f
      | .ok (.inr e) => .ok (t, e)
      | .ok (.inl t) => l.read named t rest

end EditWatch.Command
