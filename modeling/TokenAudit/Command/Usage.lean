import TokenAudit.Command.Report

/-!
# What the command line takes

Every command has a name and takes options; one takes an argument that is not an option. The same
description says which arguments are taken and what the help says about them.
-/

namespace TokenAudit

/-- How an option is given. -/
inductive OptionKind
  /-- Without a value, at most once. -/
  | switch
  /-- With a value, at most once. -/
  | single
  /-- With a value, any number of times. -/
  | several
  deriving Repr, BEq, DecidableEq

/-- An option of a command. -/
structure OptionUsage where
  /-- The name, without dashes. -/
  name : String
  /-- How it is given. -/
  kind : OptionKind
  /-- What it is for. -/
  help : String
  /-- What stands for its value. -/
  value : String := ""
  /-- Whether it must be given. -/
  required : Bool := false
  /-- The value it has if it is not given. -/
  default? : Option String := none
  deriving Repr, BEq, DecidableEq

/-- What a command takes. -/
structure CommandUsage where
  /-- The name. -/
  name : String
  /-- What the command does, in a sentence without its full stop. -/
  about : String
  /-- What else there is to say about it. -/
  more? : Option String := none
  /-- The options. -/
  options : List OptionUsage
  /-- The argument that is not an option: what stands for it, and what it is for. -/
  positional? : Option (String × String) := none
  deriving Repr, BEq, DecidableEq

namespace CommandUsage

/-- The root of a project. -/
def rootOption : OptionUsage :=
  { name := "root", kind := .single, value := "ROOT", default? := some ".",
    help := "Project root directory. Defaults to the current working directory" }

/-- Output as JSON. -/
def jsonOption : OptionUsage :=
  { name := "json", kind := .switch, help := "Emit JSON instead of human-readable text" }

/-- The commands. -/
def all : List CommandUsage :=
  [{ name := "init-project",
     about := "Initialize a new audit project at the given root",
     more? := some ("This will: - Create a `.conform` metadata directory. " ++
       "- Create `audits`, `reports`, and `outputs/runs` directories. " ++
       "- Write a `.conform/project.json` config file and create the database."),
     options := [rootOption,
       { name := "name", kind := .single, value := "NAME",
         help := "Optional project name. If omitted, the name is derived from the root directory" }] },
    { name := "project-info",
      about := "Show basic information about an existing project",
      options := [rootOption, jsonOption] },
    { name := "analyze",
      about := "Analyze a Solidity file or directory without a project",
      options := [
        { name := "path", kind := .single, value := "PATH", required := true,
          help := "File or directory to analyze" },
        { name := "signature", kind := .single, value := "SIGNATURE",
          help := "Target function signature, e.g. " ++
            "\"setApprovalForAll(address operator, bool approved)\"" },
        { name := "standard", kind := .single, value := "STANDARD",
          help := "Standard preset (e.g. erc1155-batch-transfer). " ++
            "Inferred from the signature when omitted" },
        { name := "profile", kind := .single, value := "PROFILE",
          help := "Verifier profile: standard or gas-family" },
        { name := "ext", kind := .several, value := "EXTENSIONS",
          help := "Source file extensions to include (repeatable). Defaults to sol" },
        { name := "parallel", kind := .switch, help := "Analyze files on a worker pool" },
        jsonOption,
        { name := "out", kind := .single, value := "OUT",
          help := "Also write the JSON report to this file" }] },
    { name := "run-audit",
      about := "Run an audit spec (YAML/JSON) and record the run in the project database",
      options := [rootOption,
        { name := "file", kind := .single, value := "FILE", required := true,
          help := "Path to the audit spec file" },
        { name := "force", kind := .switch,
          help := "Overwrite an existing output directory for this audit" }] },
    { name := "list-runs",
      about := "List recorded audit runs",
      options := [rootOption,
        { name := "audit", kind := .single, value := "AUDIT",
          help := "Only show runs of this audit" },
        jsonOption] },
    { name := "show-run",
      about := "Show the latest run of an audit with its per-file outcomes",
      options := [rootOption,
        { name := "audit", kind := .single, value := "AUDIT", required := true,
          help := "Audit name" },
        jsonOption] },
    { name := "standards",
      about := "List the standard presets and their default signatures",
      options := [jsonOption] },
    { name := "selector",
      about := "Compute the normalized form, keccak-256 hash and selector of a signature",
      options := [jsonOption],
      positional? := some ("SIGNATURE", "Function signature, with or without parameter names") },
    { name := "scan-bytecode",
      about := "Scan deployed bytecode for known receiver-hook entry points",
      options := [
        { name := "hex", kind := .single, value := "HEX", help := "Hex-encoded bytecode" },
        { name := "file", kind := .single, value := "FILE",
          help := "File holding hex-encoded bytecode" },
        jsonOption] }]

/-- The command with a name. -/
def find? (name : String) : Option CommandUsage :=
  all.find? (·.name == name)

/-- How an option of a command is given. -/
def kind? (usage : CommandUsage) (option : String) : Option OptionKind :=
  (usage.options.find? (·.name == option)).map (·.kind)

end CommandUsage

/-! ## Help -/

/-- A row of a table in the help. -/
structure HelpRow where
  /-- What is explained. -/
  term : String
  /-- The explanation. -/
  help : String
  /-- The value that something has if it is not given. -/
  default? : Option String := none
  deriving Repr, BEq, DecidableEq

namespace HelpRow

/-- A number of blanks. -/
def blanks (n : Nat) : String :=
  String.ofList (List.replicate n ' ')

/-- The row of an option. -/
def ofOption (option : OptionUsage) : HelpRow :=
  ⟨"    --" ++ option.name ++ (if option.kind == .switch then "" else " <" ++ option.value ++ ">"),
    option.help, option.default?⟩

/-- The row that says how to make the tool say more. -/
def verbose : HelpRow :=
  ⟨"-v, --verbose...",
    "Increase log verbosity (-v info, -vv debug, -vvv trace). `RUST_LOG` wins", none⟩

/-- What to say about the value that something has if it is not given. -/
def note (row : HelpRow) : List String :=
  row.default?.toList.map fun value => "[default: " ++ value ++ "]"

/-- Rows with the explanations in a column. -/
def table (rows : List HelpRow) : List String :=
  let width := rows.foldl (fun width row => max width row.term.length) 0
  rows.map fun row =>
    "  " ++ row.term ++ blanks (width - row.term.length + 2) ++
      " ".intercalate (row.help :: row.note)

/-- Rows with the explanations below, and a line between them. -/
def tall (rows : List HelpRow) : List String :=
  let margin := blanks 10
  [""].intercalate (rows.map fun row =>
    ["  " ++ row.term, margin ++ row.help] ++ row.note.flatMap fun note => [margin, margin ++ note])

end HelpRow

/-- What is asked for instead of a command. -/
inductive HelpTopic
  /-- The tool as a whole. -/
  | tool
  /-- A command, with all there is to say about it or not. -/
  | command (usage : CommandUsage) (long : Bool)
  /-- The command that gives help. -/
  | help
  deriving Repr, BEq, DecidableEq

namespace CommandUsage

/-- How a command is written. -/
def synopsis (usage : CommandUsage) : String :=
  " ".intercalate (["Usage: sol-conform", usage.name, "[OPTIONS]"] ++
    (usage.options.filter (·.required)).map (fun option =>
      "--" ++ option.name ++ " <" ++ option.value ++ ">") ++
    usage.positional?.toList.map fun (value, _) => "<" ++ value ++ ">")

/-- The rows of a command's options: the ones of its own, and after the first those of all commands. -/
def rows (usage : CommandUsage) (long : Bool) : List HelpRow :=
  let own := usage.options.map HelpRow.ofOption
  let hint :=
    if usage.more?.isNone then ""
    else if long then " (see a summary with '-h')"
    else " (see more with '--help')"
  own.take 1 ++ [HelpRow.verbose] ++ own.drop 1 ++ [⟨"-h, --help", "Print help" ++ hint, none⟩]

/-- The help for a command. -/
def help (usage : CommandUsage) (long : Bool) : List String :=
  let positional := match usage.positional? with
    | some (value, help) => ["Arguments:"] ++ HelpRow.table [⟨"<" ++ value ++ ">", help, none⟩] ++ [""]
    | none => []
  match usage.more?, long with
  | some more, true =>
    [usage.about ++ ".", "", more, "", usage.synopsis, ""] ++ positional ++ ["Options:"] ++
      HelpRow.tall (usage.rows true)
  | _, _ =>
    [usage.about, "", usage.synopsis, ""] ++ positional ++ ["Options:"] ++
      HelpRow.table (usage.rows false)

end CommandUsage

namespace HelpTopic

/-- What the command that gives help does. -/
def aboutHelp : String :=
  "Print this message or the help of the given subcommand(s)"

/-- The help for a topic. -/
def text : HelpTopic → String
  | tool => unlines (
    ["Heuristic ERC compliance auditor for Solidity sources", "",
      "Usage: sol-conform [OPTIONS] <COMMAND>", "", "Commands:"] ++
      HelpRow.table (CommandUsage.all.map (fun usage => ⟨usage.name, usage.about, none⟩) ++
        [⟨"help", aboutHelp, none⟩]) ++
      ["", "Options:"] ++
      HelpRow.table [HelpRow.verbose, ⟨"-h, --help", "Print help", none⟩,
        ⟨"-V, --version", "Print version", none⟩])
  | command usage long => unlines (usage.help long)
  | help => unlines (
    [aboutHelp, "", "Usage: sol-conform help [COMMAND]...", "", "Arguments:"] ++
      HelpRow.table [⟨"[COMMAND]...", "Print help for the subcommand(s)", none⟩])

end HelpTopic

end TokenAudit
