import TokenAudit.Command.Runs
import TokenAudit.Command.Usage

/-!
# The command line

The arguments of the tool name a command and its options. An option is given as `--name value` or
`--name=value`; two dashes alone end the options.
-/

namespace TokenAudit

/-- What the tool is asked to do. -/
inductive Request
  /-- Create a project. -/
  | initProject (root : String) (name : Option String)
  /-- Show what is known about a project. -/
  | projectInfo (root : String) (json : Bool)
  /-- Analyze sources without a project. -/
  | analyze (path : String) (options : AnalyzeOptions)
  /-- Run the audit that a spec describes. -/
  | runAudit (root file : String) (force : Bool)
  /-- List the recorded runs. -/
  | listRuns (root : String) (audit : Option String) (json : Bool)
  /-- Show the latest run of an audit. -/
  | showRun (root audit : String) (json : Bool)
  /-- List the standards. -/
  | standards (json : Bool)
  /-- Show the selector of a signature. -/
  | selector (signature : String) (json : Bool)
  /-- Look for known selectors in bytecode. -/
  | scanBytecode (hex file : Option String) (json : Bool)
  deriving Repr, BEq, DecidableEq

namespace Request

/-- Carries out a request and gives what it prints. -/
def run (times : RunTimes) : Request → Session String
  | .initProject root name => Command.initProject root name
  | .projectInfo root json => Command.projectInfo root json
  | .analyze path options => Command.analyze path options
  | .runAudit root file force => Command.runAudit root file force times
  | .listRuns root audit json => Command.listRuns root audit json
  | .showRun root audit json => Command.showRun root audit json
  | .standards json => pure (Command.standards json)
  | .selector signature json => Command.selector signature json
  | .scanBytecode hex file json => Command.scanBytecode hex file json

end Request

/-- Why the arguments make no request, or what is asked for instead of one. -/
inductive Refusal
  /-- The arguments are wrong. -/
  | usage
  /-- Help is asked for. -/
  | help (topic : HelpTopic)
  /-- The version is asked for. -/
  | version
  deriving Repr, BEq, DecidableEq

/-- Arguments taken apart. -/
structure Arguments where
  /-- The options with their values, in order; a switch has an empty value. -/
  options : List (String × String) := []
  /-- The arguments that are not options, in order. -/
  positionals : List String := []
  deriving Repr, BEq, DecidableEq

namespace Arguments

/-- The value of an option that is given at most once. -/
def value? (args : Arguments) (name : String) : Option String :=
  args.options.lookup name

/-- The values of an option. -/
def values (args : Arguments) (name : String) : List String :=
  (args.options.filter (·.1 == name)).map (·.2)

/-- Whether a switch is given. -/
def has (args : Arguments) (name : String) : Bool :=
  (args.value? name).isSome

/-- Adds an option; most can be given only once. -/
def add (args : Arguments) (kind : OptionKind) (name value : String) : Except Refusal Arguments :=
  if kind != .several && args.has name then .error .usage
  else .ok { args with options := args.options ++ [(name, value)] }

/-- Adds an argument that is not an option. -/
def addPositional (args : Arguments) (usage : CommandUsage) (text : String) : Except Refusal Arguments :=
  if args.positionals.length < usage.positional?.toList.length then
    .ok { args with positionals := args.positionals ++ [text] }
  else .error .usage

/-- Letters after one dash: the one that makes the tool say more, the one for help on a topic, and
outside commands the one for the version. -/
def letters (topic : HelpTopic) : List Char → Except Refusal Unit
  | [] => .ok ()
  | 'v' :: rest => letters topic rest
  | 'h' :: _ => .error (.help topic)
  | 'V' :: _ => .error (if topic == .tool then .version else .usage)
  | _ :: _ => .error .usage

/-- The name of a long option and the value that is attached to it, after the two dashes. -/
def splitLong (text : List Char) : String × Option String :=
  let (name, rest) := text.span (· != '=')
  (String.ofList name, if rest.isEmpty then none else some (String.ofList (rest.drop 1)))

/-- Whether an argument looks like an option. -/
def isOption (text : String) : Bool :=
  match text.toList with
  | '-' :: _ :: _ => true
  | _ => false

/-- Takes apart the arguments of a command. -/
def read (usage : CommandUsage) (args : Arguments) : List String → Except Refusal Arguments
  | [] => .ok args
  | text :: rest =>
    match text.toList with
    | ['-', '-'] => rest.foldlM (addPositional · usage) args
    | '-' :: '-' :: long =>
      match splitLong long with
      | ("verbose", attached) =>
        if attached.isSome then .error .usage else read usage args rest
      | ("help", attached) =>
        .error (if attached.isSome then .usage else .help (.command usage true))
      | (name, attached) =>
        match usage.kind? name, attached with
        | none, _ => .error .usage
        | some .switch, some _ => .error .usage
        | some .switch, none =>
          match args.add .switch name "" with
          | .ok args => read usage args rest
          | .error refusal => .error refusal
        | some kind, some value =>
          match args.add kind name value with
          | .ok args => read usage args rest
          | .error refusal => .error refusal
        | some kind, none =>
          match rest with
          | [] => .error .usage
          | value :: rest =>
            if isOption value then .error .usage
            else
              match args.add kind name value with
              | .ok args => read usage args rest
              | .error refusal => .error refusal
    | '-' :: c :: cs =>
      match letters (.command usage false) (c :: cs) with
      | .ok _ => read usage args rest
      | .error refusal => .error refusal
    | _ =>
      match args.addPositional usage text with
      | .ok args => read usage args rest
      | .error refusal => .error refusal

/-- The value of an option that must be given. -/
def needed (args : Arguments) (name : String) : Except Refusal String :=
  match args.value? name with
  | some value => .ok value
  | none => .error .usage

/-- The root of a project: the current directory if none is given. -/
def root (args : Arguments) : String :=
  (args.value? "root").getD "."

end Arguments

namespace Request

/-- The request that the name of a command and its arguments make. -/
def ofArguments (name : String) (args : Arguments) : Except Refusal Request := do
  let json := args.has "json"
  match name with
  | "init-project" => return .initProject args.root (args.value? "name")
  | "project-info" => return .projectInfo args.root json
  | "analyze" =>
    let options : AnalyzeOptions :=
      { signature := args.value? "signature", standard := args.value? "standard",
        profile := args.value? "profile", extensions := args.values "ext",
        parallel := args.has "parallel", json, out := args.value? "out" }
    return .analyze (← args.needed "path") options
  | "run-audit" => return .runAudit args.root (← args.needed "file") (args.has "force")
  | "list-runs" => return .listRuns args.root (args.value? "audit") json
  | "show-run" => return .showRun args.root (← args.needed "audit") json
  | "standards" => return .standards json
  | "selector" =>
    match args.positionals with
    | signature :: _ => return .selector signature json
    | [] => throw .usage
  | "scan-bytecode" =>
    if args.has "hex" && args.has "file" then throw .usage
    return .scanBytecode (args.value? "hex") (args.value? "file") json
  | _ => throw .usage

/-- What the command that gives help is asked for. -/
def helpOn : List String → Refusal
  | [] => .help .tool
  | [name] =>
    match CommandUsage.find? name with
    | some usage => .help (.command usage true)
    | none => if name == "help" then .help .help else .usage
  | _ => .usage

/-- The request that a list of arguments makes. -/
def parse : List String → Except Refusal Request
  | [] => .error .usage
  | text :: rest =>
    match text.toList with
    | ['-', '-'] => .error .usage
    | '-' :: '-' :: long =>
      match String.ofList long with
      | "verbose" => parse rest
      | "help" => .error (.help .tool)
      | "version" => .error .version
      | _ => .error .usage
    | '-' :: c :: cs =>
      match Arguments.letters .tool (c :: cs) with
      | .ok _ => parse rest
      | .error refusal => .error refusal
    | _ =>
      if text == "help" then .error (helpOn rest)
      else
        match CommandUsage.find? text with
        | none => .error .usage
        | some usage => do ofArguments text (← Arguments.read usage {} rest)

end Request

/-- How much the tool says about its work when it is asked this often to say more. -/
def logLevel : Nat → String
  | 0 => "warn"
  | 1 => "info"
  | 2 => "debug"
  | _ => "trace"

/-- How an invocation of the tool ends. -/
structure Exit where
  /-- The exit code. -/
  code : Nat
  /-- What was printed. -/
  output : String
  /-- Why it failed. -/
  stop : Option Stop := none
  deriving Repr, BEq, DecidableEq

/-- Invokes the tool with arguments. -/
def invoke (times : RunTimes) (args : List String) (fs : FileSystem) : Exit × FileSystem :=
  match Request.parse args with
  | .error .usage => (⟨2, "", none⟩, fs)
  | .error (.help topic) => (⟨0, topic.text, none⟩, fs)
  | .error .version => (⟨0, "sol-conform " ++ toolVersion ++ "\n", none⟩, fs)
  | .ok request =>
    match (request.run times).run fs with
    | (.ok output, fs) => (⟨0, output, none⟩, fs)
    | (.error stop, fs) =>
      (⟨match stop with | .failed _ => 1 | .broken _ => 101, "", some stop⟩, fs)

end TokenAudit
