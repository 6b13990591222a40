import RequestBreakdown.CommandLine.Arguments
import RequestBreakdown.Text.Digit

/-!
# Parsing arguments

Arguments are told apart first, each by itself: options by their names or by any
beginning of a long name that fits only one, with a value after an equals sign or
right behind a short name, and everything else.  Then options take their values
in order.
-/

namespace RequestBreakdown

inductive ArgumentToken where
  /-- A value, or something that is too much. -/
  | plain (text : String)
  | option (key : OptionKey) (value : Option String)
  /-- The short name of the help option, with more behind it. -/
  | helpWith (text : String)
  | unknownOption (text : String)
  /-- The argument after which there are no options. -/
  | separator
  deriving DecidableEq, Repr

/-- What a command line asks for. -/
inductive CommandRequest where
  | run (arguments : Arguments)
  | showVersion
  | showHelp
  deriving DecidableEq, Repr

namespace ArgumentToken

/-- The text before the first equals sign and, if there is one, that after it. -/
def splitEquals (cs : List Char) : List Char × Option (List Char) :=
  match cs.dropWhile (· != '=') with
  | [] => (cs, none)
  | _ :: value => (cs.takeWhile (· != '='), some value)

/-- A name that an argument may stand for. -/
structure Candidate where
  name : String
  key : OptionKey
  value : Option String
  deriving DecidableEq, Repr

/-- The names that begin as the argument does. -/
def longCandidates (cs : List Char) : List Candidate :=
  let (beginning, value) := splitEquals cs
  (OptionKey.byName.filter fun (name, _) => beginning.isPrefixOf name.toList).map
    fun (name, key) => ⟨name, key, value.map String.ofList⟩

/-- The short name that the argument begins with; the rest is its value. -/
def shortCandidates (cs : List Char) : List Candidate :=
  (OptionKey.byName.filter fun (name, _) => name.toList == cs.take 2).map
    fun (name, key) => ⟨name, key, some (String.ofList (cs.drop 2))⟩

/-- Digits, or a fraction after any digits; a line feed may follow. -/
def isUnsignedNumber (cs : List Char) : Bool :=
  let digits := Text.dropLineFeed cs
  match digits.dropWhile Text.isDecimalDigit with
  | [] => !digits.isEmpty
  | '.' :: fraction => !fraction.isEmpty && fraction.all Text.isDecimalDigit
  | _ => false

def ofOption (name : String) (key : OptionKey) (value : Option String) : ArgumentToken :=
  match value with
  | some text => if name = OptionKey.shortHelp then .helpWith text else .option key value
  | none => .option key none

/-- An option whose name is written out, with or without a value. -/
def exactOption? (text : String) : Option ArgumentToken :=
  match OptionKey.ofName? text with
  | some key => some (.option key none)
  | none =>
    match splitEquals text.toList with
    | (name, some value) =>
      let name := String.ofList name
      (OptionKey.ofName? name).map fun key => ofOption name key (some (String.ofList value))
    | (_, none) => none

def ofText (text : String) : Except UsageFault ArgumentToken :=
  match text.toList with
  | '-' :: second :: rest =>
    match exactOption? text with
    | some token => .ok token
    | none =>
      let cs := '-' :: second :: rest
      match if second = '-' then longCandidates cs else shortCandidates cs with
      | [c] => .ok (ofOption c.name c.key c.value)
      | [] =>
        if isUnsignedNumber (second :: rest) || rest.contains ' ' || second = ' ' then
          .ok (.plain text)
        else .ok (.unknownOption text)
      | several => .error (.ambiguous text (several.map (·.name)))
  | _ => .ok (.plain text)

/-- What the arguments are; after a separator there are no options. -/
def ofTexts : List String → Except UsageFault (List ArgumentToken)
  | [] => .ok []
  | "--" :: rest => .ok (.separator :: rest.map .plain)
  | text :: rest => return (← ofText text) :: (← ofTexts rest)

end ArgumentToken

namespace Arguments

def setOption (a : Arguments) (key : OptionKey) (text : String) : Except UsageFault Arguments :=
  (a.set key text).mapError (.option key)

/-- Behind the short name of the help option may stand the letter of another option, and
behind that its value.  The help option comes first, but what is wrong behind it counts. -/
def takeHelp (text : String) (next : Option ArgumentToken) : Except UsageFault CommandRequest :=
  go text.toList
where
  go : List Char → Except UsageFault CommandRequest
    | [] => .error (.option .help (.notWanted ""))
    | letter :: rest =>
      match OptionKey.ofName? (String.ofList ['-', letter]), rest, next with
      | none, _, _ => .error (.option .help (.notWanted (String.ofList (letter :: rest))))
      | some .help, [], _ => .ok .showHelp
      | some .help, rest, _ => go rest
      | some _, _ :: _, _ => .ok .showHelp
      | some _, [], some (.plain _) => .ok .showHelp
      | some key, [], _ => .error (.option key .missing)

/-- Options take their values in order; what no option takes is too much. -/
def take (a : Arguments) (extra : List String) : List ArgumentToken → Except UsageFault CommandRequest
  | [] => if extra.isEmpty then .ok (.run a) else .error (.unrecognized extra)
  | .plain text :: rest | .unknownOption text :: rest => take a (extra ++ [text]) rest
  | .separator :: rest => take a (extra ++ ["--"]) rest
  | .helpWith text :: rest => takeHelp text rest.head?
  | .option key (some value) :: rest =>
    if key.takesValue then do take (← a.setOption key value) extra rest
    else .error (.option key (.notWanted value))
  | .option .help none :: _ => .ok .showHelp
  | .option .version none :: _ => .ok .showVersion
  | .option key none :: .plain value :: rest =>
    if key.takesValue then do take (← a.setOption key value) extra rest
    else do take (← a.setOption key "") (extra ++ [value]) rest
  | .option key none :: rest =>
    if key.takesValue then .error (.option key .missing)
    else do take (← a.setOption key "") extra rest

/-- The request of a command line, with defaults for what is not given. -/
def parse (defaults : Arguments) (texts : List String) : Except UsageFault CommandRequest := do
  defaults.take [] (← ArgumentToken.ofTexts texts)

end Arguments

end RequestBreakdown
