import EventMessages.Text.Decimal
import EventMessages.Text.Quoted

/-!
# EventMessages.CommandLine.Grammar

Reading command lines.

A command knows some switches, each with one or more names, and takes at most one operand. A switch
either takes one value or none. The value is the next word, or follows the name after `=`, or, for
a short name, follows it at once. Short names of switches without a value can be run together, with
an `=` after the first of them or without one. A long name may be cut short as long as it fits one
name only. After `--` there are only words, and `--` in the place of an attached value stands for
no value at all.

Words are read from left to right, and asking for help ends the reading where it stands.
-/

namespace EventMessages.CommandLine

/-! ## Commands -/

/-- A switch of a command. -/
structure Switch where
  /-- Its names, the short one first. -/
  names : List String
  takesValue : Bool := false
  required : Bool := false
  /-- Whether it asks for help. -/
  asksHelp : Bool := false
  deriving DecidableEq, Repr

/-- How messages call a switch. -/
def Switch.label (s : Switch) : String := "/".intercalate s.names

/-- A command: its name, its switches and its operand, and the texts that explain it. -/
structure Grammar where
  program : String
  switches : List Switch
  operand? : Option String
  /-- The line that sums up how the command is called. -/
  usage : String
  /-- What the help page says below that line. -/
  explanation : String
  deriving DecidableEq, Repr

namespace Grammar

/-- All names of switches, in order, with the switches they name. -/
def names (g : Grammar) : List (String × Switch) :=
  g.switches.flatMap fun s => s.names.map fun n => (n, s)

/-- The switch of this exact name. -/
def named? (g : Grammar) (name : String) : Option Switch :=
  (g.names.find? fun n => n.1 = name).map (·.2)

/-- The help page. -/
def helpPage (g : Grammar) : String := g.usage ++ "\n\n" ++ g.explanation

end Grammar

/-! ## Misuse -/

/-- What is wrong with a command line. -/
inductive Misuse where
  | ambiguous (word : String) (names : List String)
  | valueExpected (label : String)
  | valueIgnored (label value : String)
  | missing (labels : List String)
  | unrecognized (words : List String)
  deriving DecidableEq, Repr

/-- The message of a misuse. -/
def Misuse.message : Misuse → String
  | .ambiguous word names =>
    "ambiguous option: " ++ word ++ " could match " ++ ", ".intercalate names
  | .valueExpected label => "argument " ++ label ++ ": expected one argument"
  | .valueIgnored label value =>
    "argument " ++ label ++ ": ignored explicit argument " ++ Text.quoted value
  | .missing labels => "the following arguments are required: " ++ ", ".intercalate labels
  | .unrecognized words => "unrecognized arguments: " ++ " ".intercalate words

/-- What a misused command writes to the error stream. -/
def Grammar.complaint (g : Grammar) (m : Misuse) : String :=
  g.usage ++ "\n" ++ g.program ++ ": error: " ++ m.message ++ "\n"

/-! ## Words -/

/-- A switch as it was found in a word. -/
structure Mention where
  switch : Switch
  name : String
  /-- The text that came with the name. An `=` in front of it is left out. -/
  attached? : Option String
  deriving DecidableEq, Repr

/-- The role of a word. -/
inductive Role where
  /-- An operand or the value of a switch. -/
  | word (text : String)
  /-- The word that ends the switches. -/
  | dashes
  | switch (text : String) (mention : Mention)
  /-- It looks like a switch, but the command has none like it. -/
  | unknown (text : String)
  deriving DecidableEq, Repr

/-- Whether a role takes part in the reading as a switch, known or not. -/
def Role.isSwitch : Role → Bool
  | .word _ => false
  | .dashes => false
  | .switch _ _ => true
  | .unknown _ => true

/-- The word of a role. -/
def Role.text : Role → String
  | .word text => text
  | .dashes => "--"
  | .switch text _ => text
  | .unknown text => text

/-- The text before and after the first `=`. -/
def splitEquals? (word : List Char) : Option (List Char × List Char) :=
  match word.dropWhile (· != '=') with
  | [] => none
  | _ :: value => some (word.takeWhile (· != '='), value)

/-- A word that reads as a negative number: digits after a hyphen, with a point before the last
digits or without. One line break may end it. -/
def isNegativeNumber (word : List Char) : Bool :=
  match word with
  | '-' :: rest =>
    let digits := if rest.getLast? = some '\n' then rest.dropLast else rest
    let fraction := digits.dropWhile Text.isDecimal
    match fraction with
    | [] => !digits.isEmpty
    | '.' :: last => !last.isEmpty && last.all Text.isDecimal
    | _ => false
  | _ => false

namespace Grammar

/-- The switches that a word may mean when it is no exact name. -/
def candidates (g : Grammar) (word : String) : List Mention :=
  match word.toList with
  | '-' :: '-' :: _ =>
    let (start, attached?) :=
      match splitEquals? word.toList with
      | none => (word.toList, none)
      | some (start, value) => (start, some (String.ofList value))
    g.names.filterMap fun n =>
      if start.isPrefixOf n.1.toList then some ⟨n.2, n.1, attached?⟩ else none
  | '-' :: letter :: value =>
    g.names.filterMap fun n =>
      if n.1.toList = ['-', letter] then some ⟨n.2, n.1, some (String.ofList value)⟩
      else if word.toList.isPrefixOf n.1.toList then some ⟨n.2, n.1, none⟩
      else none
  | _ => []

/-- The switch that a word names exactly, with a value after `=` or without one. -/
def exactly? (g : Grammar) (word : String) : Option Mention :=
  match g.named? word with
  | some switch => some ⟨switch, word, none⟩
  | none =>
    match splitEquals? word.toList with
    | none => none
    | some (start, value) =>
      let name := String.ofList start
      (g.named? name).map fun switch => ⟨switch, name, some (String.ofList value)⟩

/-- The role of a word that stands before any `--`. -/
def roleOf (g : Grammar) (word : String) : Except Misuse Role :=
  if word.toList.head? ≠ some '-' ∨ word = "-" then .ok (.word word)
  else
    match g.exactly? word with
    | some mention => .ok (.switch word mention)
    | none =>
      match g.candidates word with
      | [mention] => .ok (.switch word mention)
      | [] =>
        if isNegativeNumber word.toList || word.toList.contains ' ' then .ok (.word word)
        else .ok (.unknown word)
      | several => .error (.ambiguous word (several.map (·.name)))

/-- The roles of all words. After `--` every word is just a word. -/
def roles (g : Grammar) : List String → Except Misuse (List Role)
  | [] => .ok []
  | word :: rest =>
    if word = "--" then .ok (.dashes :: rest.map .word)
    else
      match g.roleOf word with
      | .error m => .error m
      | .ok role => (roles g rest).map (role :: ·)

end Grammar

/-! ## Reading -/

/-- What was found on a command line so far. -/
structure Found where
  operand? : Option String := none
  /-- The switches with their values, the latest first. -/
  values : List (Switch × Option String) := []
  /-- The words that mean nothing to the command. -/
  extras : List String := []
  deriving DecidableEq, Repr

/-- The value of a switch. If it was given more than once, the last time counts, with a value or
without one. -/
def Found.value? (f : Found) (name : String) : Option String :=
  (f.values.find? fun v => v.1.names.contains name).bind (·.2)

/-- Whether a switch was given. -/
def Found.has (f : Found) (name : String) : Bool := f.values.any fun v => v.1.names.contains name

/-- How the reading of a command line ends. -/
inductive Reading where
  | found (f : Found)
  /-- Help was asked for. -/
  | help
  | misuse (m : Misuse)
  deriving DecidableEq, Repr

/-- What a mention of switches comes to: the switches with their values, and the words that are
left. -/
structure Effect where
  values : List (Switch × Option String)
  rest : List Role
  deriving DecidableEq, Repr

/-- The value that an attached text is. -/
def valueOf? (text : String) : Option String := if text = "--" then none else some text

/-- A switch without an attached text takes the next word, if it takes a value. -/
def bare (switch : Switch) (rest : List Role) : Except Misuse Effect :=
  if switch.takesValue then
    match rest with
    | .word text :: rest => .ok { values := [(switch, some text)], rest }
    | _ => .error (.valueExpected switch.label)
  else .ok { values := [(switch, none)], rest }

/-- A short name with the text that is attached to it: its value, or more short names. -/
def Grammar.attached (g : Grammar) (rest : List Role) : Switch → List Char → Except Misuse Effect
  | switch, [] =>
    if switch.takesValue then .ok { values := [(switch, some "")], rest }
    else .error (.valueIgnored switch.label "")
  | switch, letter :: more =>
    let text := String.ofList (letter :: more)
    if switch.takesValue then .ok { values := [(switch, valueOf? text)], rest }
    else
      match g.named? (String.ofList ['-', letter]) with
      | none => .error (.valueIgnored switch.label text)
      | some next =>
        let effect := if more = [] then bare next rest else g.attached rest next more
        effect.map fun e => { e with values := (switch, none) :: e.values }

/-- Whether a name is a short one. -/
def isShort (name : String) : Bool := (name.toList.drop 1).head? ≠ some '-'

/-- What a mention of a switch comes to. -/
def Grammar.effect (g : Grammar) (m : Mention) (rest : List Role) : Except Misuse Effect :=
  match m.attached? with
  | none => bare m.switch rest
  | some text =>
    if isShort m.name then g.attached rest m.switch text.toList
    else if m.switch.takesValue then .ok { values := [(m.switch, valueOf? text)], rest }
    else .error (.valueIgnored m.switch.label text)

/-- The operand among words that no switch follows, and the words that are left. -/
def operandOf : List Role → Option (String × List Role)
  | .word text :: .dashes :: rest => some (text, rest)
  | .word text :: rest => some (text, rest)
  | .dashes :: .word text :: rest => some (text, rest)
  | _ => none

/-- Whether the operand of the command is still to come. -/
def Grammar.wantsOperand (g : Grammar) (f : Found) : Bool :=
  g.operand?.isSome && f.operand?.isNone

/-- The end of a command line, where no switch is left. -/
def Grammar.close (g : Grammar) (f : Found) (roles : List Role) : Found :=
  match if g.wantsOperand f then operandOf roles else none with
  | some (text, rest) =>
    { f with operand? := some text, extras := f.extras ++ rest.map Role.text }
  | none => { f with extras := f.extras ++ roles.map Role.text }

/-- Reads the roles from left to right, at most `n` of them. -/
def Grammar.readUpTo (g : Grammar) : Nat → Found → List Role → Reading
  | 0, f, roles => .found (g.close f roles)
  | n + 1, f, roles =>
    if !roles.any Role.isSwitch then .found (g.close f roles)
    else
      match roles with
      | .switch _ mention :: rest =>
        match g.effect mention rest with
        | .error m => .misuse m
        | .ok e =>
          if e.values.any fun v => v.1.asksHelp then .help
          else g.readUpTo n { f with values := e.values.reverse ++ f.values } e.rest
      | role :: rest =>
        if !role.isSwitch && g.wantsOperand f then
          g.readUpTo n { f with operand? := some role.text } rest
        else g.readUpTo n { f with extras := f.extras ++ [role.text] } rest
      | [] => .found f

/-- The labels of what a command cannot do without and was not given. -/
def Grammar.missing (g : Grammar) (f : Found) : List String :=
  (if g.wantsOperand f then g.operand?.toList else []) ++
    (g.switches.filter fun s => s.required && !f.values.any fun v => v.1 = s).map Switch.label

/-- Reads a command line. -/
def Grammar.read (g : Grammar) (words : List String) : Reading :=
  match g.roles words with
  | .error m => .misuse m
  | .ok roles =>
    match g.readUpTo roles.length {} roles with
    | .found f =>
      if g.missing f ≠ [] then .misuse (.missing (g.missing f))
      else if f.extras ≠ [] then .misuse (.unrecognized f.extras)
      else .found f
    | .help => .help
    | .misuse m => .misuse m

end EventMessages.CommandLine
