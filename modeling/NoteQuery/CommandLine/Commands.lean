import NoteQuery.CommandLine.Options

/-!
# The commands

The commands of the program with their options, and the examples that they show on request.
-/

namespace NoteQuery.CommandLine

def programName : String := "mdviews"

def version : String := "0.1.0"

def helpOption : OptionSpec where
  key := "help"
  names := ["--help"]
  eager := true
  help := "Show this message and exit."

def examplesOption : OptionSpec where
  key := "examples"
  names := ["--examples"]
  eager := true
  help := "Show usage examples."

def displayOption (help : String) : OptionSpec where
  key := "display"
  names := ["--display"]
  takesValue := true
  help := help

/-- The program itself, whose options hold for all commands. -/
def rootCommand : Command where
  path := programName
  pattern := "[OPTIONS] [COMMAND] [ARGS]..."
  about := "mdviews — query markdown frontmatter like a spreadsheet."
  isGroup := true
  members := [("query", "Query the frontmatter of markdown files in DIRECTORY."),
    ("views", "List and run the views defined under [views.<name>].")]
  options := [
    { key := "version", names := ["--version"], eager := true,
      help := "Show the version and exit." },
    { key := "json_output", names := ["--json"], help := "Structured JSON output." },
    { key := "verbose", names := ["-v", "--verbose"],
      help := "Debug logging and result summaries." },
    { key := "log_json", names := ["--log-json"],
      help := "Structured JSON log output to stderr." },
    { key := "config", names := ["-c", "--config"], takesValue := true,
      help := "Path to mdviews.toml." },
    helpOption]

def queryCommand : Command where
  path := programName ++ " query"
  pattern := "[OPTIONS] [DIRECTORY]"
  about := "Query the frontmatter of markdown files in DIRECTORY."
  arguments := ["DIRECTORY"]
  options := [
    { key := "where", names := ["-w", "--where"], takesValue := true,
      help := "Condition FIELD=VALUE, FIELD>=VALUE or FIELD:OP[:VALUE]. Repeatable." },
    { key := "sort", names := ["--sort"], takesValue := true, help := "Field to sort by." },
    { key := "order", names := ["--order"], takesValue := true,
      help := "Sort direction (default: asc, or the configured default)." },
    { key := "limit", names := ["--limit"], takesValue := true, help := "Max results." },
    { key := "fields", names := ["--fields"], takesValue := true,
      help := "Comma-separated fields to select." },
    displayOption "Output as a Rich table or a markdown table.",
    { key := "numbered", names := ["--numbered"], help := "Number the result rows." },
    examplesOption, helpOption]

def viewsCommand : Command where
  path := programName ++ " views"
  pattern := "[OPTIONS] COMMAND [ARGS]..."
  about := "List and run the views defined under [views.<name>]."
  isGroup := true
  members := [("list", "List configured views with their descriptions."),
    ("run", "Run the view NAME.")]
  options := [examplesOption, helpOption]

def listCommand : Command where
  path := programName ++ " views list"
  pattern := "[OPTIONS]"
  about := "List configured views with their descriptions."
  options := [helpOption]

def runCommand : Command where
  path := programName ++ " views run"
  pattern := "[OPTIONS] NAME"
  about := "Run the view NAME."
  arguments := ["NAME"]
  options := [displayOption "Override the view's display mode.", examplesOption, helpOption]

/-! ## Examples -/

def queryExamples : String :=
  "  mdviews query ~/notes/books\n" ++
  "  mdviews query books --where type=book --sort start --order desc\n" ++
  "  mdviews query books -w \"rating>=4\" -w killed=false --limit 10\n" ++
  "  mdviews query books -w tags:contains:scifi --fields title,rating,tags\n" ++
  "  mdviews query books -w type:in:book,audiobook --display markdown --numbered\n" ++
  "  mdviews --json query books -w start:exists"

def viewsExamples : String :=
  "  mdviews views list\n" ++
  "  mdviews views run reading\n" ++
  "  mdviews views run reading --display markdown\n" ++
  "  mdviews --json views run reading"

def runExamples : String :=
  "  mdviews views run reading\n" ++
  "  mdviews views run backlog --display markdown"

/-- The examples of a command under a heading. -/
def examplesText (c : Command) (examples : String) : String :=
  "Examples for '" ++ c.path ++ "':\n\n" ++ examples ++ "\n"

end NoteQuery.CommandLine
