/-
  SpanPipeline.CommandLine
  ────────────────────────
  The options of the command line.

  An option is given by its name or by the start of one, and its
  value follows as the next argument or after an equals sign.  All
  arguments are told apart first: whether one is an option does not
  depend on the arguments around it, but nothing after a double
  dash is one.  Then they are gone through in order, and the last
  value of an option counts.

  Main results:
    * `parse_nil` — without arguments nothing is asked for.
    * `collect_extras` — an argument that belongs to no option is
      at fault.
-/
import SpanPipeline.Config
import SpanPipeline.Text.Cut
import SpanPipeline.Text.Digits
import SpanPipeline.Text.Quoted

namespace SpanPipeline.CommandLine

open Text

/-! ## §1. Options. -/

/-- The options of the program. -/
inductive Opt where
  | help
  | config
  | logLevel
  | emitSpan
  deriving DecidableEq, Repr

/-- The names of options. -/
def names : List (String × Opt) :=
  [ ("-h", .help), ("--help", .help), ("--config", .config), ("--log-level", .logLevel),
    ("--emit-test-span", .emitSpan) ]

/-- An option in words: all its names. -/
def Opt.label (o : Opt) : String :=
  String.intercalate "/" ((names.filter fun n => n.2 == o).map Prod.fst)

/-- The names of levels that may be chosen. -/
def levelNames : List String := LogLevel.all.map LogLevel.name

/-- What the options say. -/
structure Options where
  /-- The path of the configuration. -/
  config : Option String := none
  /-- Stands in for the level of the configuration. -/
  logLevel : Option LogLevel := none
  /-- The name of a span to send. -/
  emitSpan : Option String := none
  deriving DecidableEq, Repr, Inhabited

/-- What is wrong with the arguments. -/
inductive UsageFault where
  /-- The argument starts the names of several options. -/
  | ambiguous (arg : String) (names : List String)
  | missingValue (o : Opt)
  /-- The option takes no value. -/
  | unwantedValue (o : Opt) (value : String)
  | noLevel (value : String)
  | unrecognized (args : List String)
  deriving DecidableEq, Repr

namespace UsageFault

/-- What is wrong with an option. -/
def ofOption (o : Opt) (complaint : String) : String :=
  "argument " ++ o.label ++ ": " ++ complaint

/-- The fault in words. -/
def message : UsageFault → String
  | .ambiguous arg names =>
    "ambiguous option: " ++ arg ++ " could match " ++ String.intercalate ", " names
  | .missingValue o => ofOption o "expected one argument"
  | .unwantedValue o value => ofOption o ("ignored explicit argument " ++ quote value)
  | .noLevel value => ofOption .logLevel ("invalid choice: " ++ quote value ++ " (choose from "
      ++ String.intercalate ", " (levelNames.map quote) ++ ")")
  | .unrecognized args => "unrecognized arguments: " ++ String.intercalate " " args

end UsageFault

/-- Why the program does not start. -/
inductive Stop where
  | help
  | fault (f : UsageFault)
  deriving DecidableEq, Repr

/-! ## §2. Telling arguments apart. -/

/-- An argument by what it is. -/
inductive Token where
  /-- It may be the value of an option. -/
  | plain (arg : String)
  /-- A double dash.  Only plain arguments follow. -/
  | separator
  /-- It looks like an option but is none. -/
  | unknown (arg : String)
  /-- An option, perhaps with a value. -/
  | option (o : Opt) (value : Option String)
  /-- The short name for help with characters after it. -/
  | shortHelp (rest : String)
  deriving DecidableEq, Repr

/-- A minus sign before digits, which may have a point among them
    or before them.  A line feed may follow. -/
def isNegativeNumber : List Char → Bool
  | '-' :: cs =>
    let isDigit (c : Char) : Bool := (digitValue? c).isSome
    let isEnd (cs : List Char) : Bool := cs.isEmpty || cs == ['\n']
    let whole := cs.takeWhile isDigit
    match cs.dropWhile isDigit with
    | '.' :: fraction =>
      (fraction.head?.map isDigit).getD false && isEnd (fraction.dropWhile isDigit)
    | rest => !whole.isEmpty && isEnd rest
  | _ => false

/-- What an argument is that is not the name of an option. -/
def unnamed (arg : String) : Token :=
  if isNegativeNumber arg.toList || arg.toList.contains ' ' then .plain arg else .unknown arg

/-- The argument up to its first equals sign, and what follows. -/
def nameAndValue (arg : String) : String × Option String :=
  match cut? '=' arg.toList with
  | some (name, value) => (String.ofList name, some (String.ofList value))
  | none => (arg, none)

/-- The names that start with a text. -/
def namesFrom (start : String) : List (String × Opt) :=
  names.filter fun n => start.toList.isPrefixOf n.1.toList

/-- What a long option is: one whose name starts with the argument,
    without its value. -/
def longToken (arg : String) : Except UsageFault Token :=
  let (name, value) := nameAndValue arg
  match names.lookup name, namesFrom name with
  | some o, _ => .ok (.option o value)
  | none, [(_, o)] => .ok (.option o value)
  | none, [] => .ok (unnamed arg)
  | none, several => .error (.ambiguous arg (several.map Prod.fst))

/-- What an argument is. -/
def token (arg : String) : Except UsageFault Token :=
  match arg.toList with
  | ['-', 'h'] => .ok (.option .help none)
  | '-' :: 'h' :: rest => .ok (.shortHelp (String.ofList rest))
  | '-' :: '-' :: _ => longToken arg
  | '-' :: _ :: _ => .ok (unnamed arg)
  | _ => .ok (.plain arg)

/-- What the arguments are. -/
def tokens : List String → Except UsageFault (List Token)
  | [] => .ok []
  | "--" :: args => .ok (.separator :: args.map .plain)
  | arg :: args => do return (← token arg) :: (← tokens args)

/-! ## §3. Going through the arguments. -/

/-- Give an option a value. -/
def Options.set (o : Options) (option : Opt) (value : String) : Except Stop Options :=
  match option with
  | .help => .error (.fault (.unwantedValue .help value))
  | .config => .ok { o with config := some value }
  | .logLevel =>
    match LogLevel.all.find? (·.name = value) with
    | some level => .ok { o with logLevel := some level }
    | none => .error (.fault (.noLevel value))
  | .emitSpan => .ok { o with emitSpan := some value }

/-- What characters after the short name for help mean.  They are
    taken for short names, of which there is but this one; others are
    passed over.  An equals sign after the last of these names, or a
    minus sign, makes the rest a value. -/
def shortHelp (rest : String) : Stop :=
  match rest.toList.dropWhile (· = 'h') with
  | '=' :: value => .fault (.unwantedValue .help (String.ofList value))
  | '-' :: value => .fault (.unwantedValue .help (String.ofList ('-' :: value)))
  | _ => .help

/-- Go through the arguments.  Those that belong to no option are
    kept, and are at fault in the end. -/
def collect (o : Options) (extras : List String) : List Token → Except Stop Options
  | [] => if extras.isEmpty then .ok o else .error (.fault (.unrecognized extras))
  | .plain arg :: ts => collect o (extras ++ [arg]) ts
  | .unknown arg :: ts => collect o (extras ++ [arg]) ts
  | .separator :: ts => collect o (extras ++ ["--"]) ts
  | .shortHelp rest :: _ => .error (shortHelp rest)
  | .option .help none :: _ => .error .help
  | .option option (some value) :: ts => do collect (← o.set option value) extras ts
  | .option option none :: .plain value :: ts => do collect (← o.set option value) extras ts
  | .option option none :: _ => .error (.fault (.missingValue option))

/-- What the arguments of the command line ask for. -/
def parse (args : List String) : Except Stop Options := do
  let ts ← (tokens args).mapError .fault
  collect {} [] ts

theorem parse_nil : parse [] = .ok {} := rfl

theorem collect_extras {o o' : Options} {extras : List String} {ts : List Token}
    (h : collect o extras ts = .ok o') : extras = [] := by
  fun_induction collect o extras ts
  case case1 he => simpa using he
  case case3 ih | case4 ih | case5 ih => simpa using ih h
  case case8 o _ option value _ ih =>
    cases hs : o.set option value with
    | error e => simp [hs, bind, Except.bind] at h
    | ok o₁ => exact ih o₁ (by simpa [hs, bind, Except.bind] using h)
  case case9 o _ option value _ _ ih =>
    cases hs : o.set option value with
    | error e => simp [hs, bind, Except.bind] at h
    | ok o₁ => exact ih o₁ (by simpa [hs, bind, Except.bind] using h)
  all_goals simp at h

/-! ## §4. What is printed. -/

/-- The name of the program. -/
def program : String := "ziggiz-courier-trace-pipeline"

/-- How the program is called. -/
def usage : String := String.intercalate "\n"
  [ "usage: " ++ program ++ " [-h] [--config CONFIG]",
    "                                     [--log-level \x7bDEBUG,INFO,WARNING,ERROR,CRITICAL\x7d]",
    "                                     [--emit-test-span NAME]", "" ]

/-- What the options mean. -/
def help : String := usage ++ String.intercalate "\n"
  [ "", "Ziggiz Courier Trace Pipeline", "", "options:",
    "  -h, --help            show this help message and exit",
    "  --config CONFIG       Path to configuration file",
    "  --log-level \x7bDEBUG,INFO,WARNING,ERROR,CRITICAL\x7d",
    "                        Logging level (overrides config file)",
    "  --emit-test-span NAME",
    "                        Send a single span with this name through the pipeline", "" ]

/-- What is printed about a fault. -/
def UsageFault.report (f : UsageFault) : String :=
  usage ++ program ++ ": error: " ++ f.message ++ "\n"

end SpanPipeline.CommandLine
