import Workday.CommandLine

/-!
# Help

What the program says about itself and about the faults of a command line.
-/

set_option autoImplicit false

namespace Workday.CommandLine

/-- The name of the program. -/
def programName : String := "san-working-days"

/-- The name and the version. -/
def versionText : String := programName ++ " 0.1.0\n"

/-- What a verb does. -/
def Verb.summary : Verb → String
  | isWorkingDay => "Report whether a date is a working day"
  | nextWorkingDay => "Date that is N working days after a start date"
  | bankHolidays => "List published bank holidays"
  | health => "Check the bank holidays feed is reachable"

/-- What the word for help does. -/
def helpSummary : String := "Print this message or the help of the given subcommand(s)"

namespace Topic

/-- What a topic is about. -/
def summary : Topic → String
  | program => "Working-day calculations against the UK bank holiday calendar"
  | verb v => v.summary
  | help => helpSummary

/-- How a command line on a topic is made up. -/
def usage : Topic → String
  | program => programName ++ " [OPTIONS] <COMMAND>"
  | verb .isWorkingDay => programName ++ " is-working-day <DATE>"
  | verb .nextWorkingDay => programName ++ " next-working-day [OPTIONS] <DAYS>"
  | verb .bankHolidays => programName ++ " bank-holidays [OPTIONS]"
  | verb .health => programName ++ " health"
  | help => programName ++ " help [COMMAND]..."

/-- The lists of a topic, each with its heading. -/
def sections : Topic → List (String × List String)
  | program =>
    [("Commands",
        ["is-working-day    " ++ Verb.isWorkingDay.summary,
         "next-working-day  " ++ Verb.nextWorkingDay.summary,
         "bank-holidays     " ++ Verb.bankHolidays.summary,
         "health            " ++ Verb.health.summary,
         "help              " ++ helpSummary]),
     ("Options",
        ["-c, --config <CONFIG>  Path to config file (default: " ++
           "$XDG_CONFIG_HOME/san-working-days/config.yaml)",
         "-r, --region <REGION>  Bank holiday jurisdiction [default: england-and-wales]",
         "-h, --help             Print help",
         "-V, --version          Print version"])]
  | verb .isWorkingDay =>
    [("Arguments", ["<DATE>  Date as YYYY-MM-DD"]), ("Options", ["-h, --help  Print help"])]
  | verb .nextWorkingDay =>
    [("Arguments", ["<DAYS>  Number of working days to step forward"]),
     ("Options",
        ["    --from <FROM>  Start date as YYYY-MM-DD (default: today)",
         "-h, --help         Print help"])]
  | verb .bankHolidays =>
    [("Options",
        ["    --year <YEAR>  Only show holidays in this year",
         "-h, --help         Print help"])]
  | verb .health => [("Options", ["-h, --help  Print help"])]
  | help => [("Arguments", ["[COMMAND]...  Print help for the subcommand(s)"])]

/-- One list with its heading. -/
def sectionText : String × List String → String
  | (heading, entries) =>
    "\n" ++ heading ++ ":\n" ++ String.join (entries.map fun entry => "  " ++ entry ++ "\n")

/-- The help on a topic. -/
def text (topic : Topic) : String :=
  topic.summary ++ "\n\nUsage: " ++ topic.usage ++ "\n"
    ++ String.join (topic.sections.map sectionText)

end Topic

namespace Fault

/-- The wording of a fault. -/
def message : Fault → String
  | unexpected argument => "unexpected argument '" ++ argument ++ "' found"
  | unknownCommand name => "unrecognized subcommand '" ++ name ++ "'"
  | invalidValue slot value reason =>
    "invalid value '" ++ value ++ "' for '" ++ slot.label ++ "': " ++ reason
  | missingValue slot =>
    "a value is required for '" ++ slot.label ++ "' but none was supplied"
  | repeated slot => "the argument '" ++ slot.label ++ "' cannot be used multiple times"
  | unneededValue flag value =>
    "unexpected value '" ++ value ++ "' for '" ++ flag ++ "' found; no more were accepted"
  | missingArguments => "the following required arguments were not provided:"
  | missingCommand =>
    "'" ++ programName ++ "' requires a subcommand but one was not provided"
  | nothingAsked => Topic.program.text

/-- What is shown for a fault: the help if nothing was asked. -/
def text : Fault → String
  | nothingAsked => Topic.program.text
  | fault => "error: " ++ fault.message ++ "\n\nFor more information, try '--help'.\n"

end Fault

end Workday.CommandLine
