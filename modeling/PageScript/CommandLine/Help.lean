import PageScript.Argument

/-!
# Help

The texts that the command line has to say about itself.  In a table of switches the descriptions
begin in column 24; a switch that needs more room has its description on the next line.
-/

namespace PageScript.CommandLine

/-- The name of the program. -/
def programName : String := "ai-runner"

/-- The version of the program. -/
def version : String := "0.1.0"

/-- The version of a program that is not installed. -/
def unknownVersion : String := "0.0.0"

namespace Help

/-- How the program is called. -/
def usage : String := "usage: " ++ programName ++ " [options] [actions]\n"

/-- One row of a table of switches. -/
def row (switch description : String) : String :=
  if switch.length ≤ 20 then
    "  " ++ switch ++ String.ofList (List.replicate (22 - switch.length) ' ') ++ description ++ "\n"
  else "  " ++ switch ++ "\n" ++ String.ofList (List.replicate 24 ' ') ++ description ++ "\n"

/-- The preferences with their descriptions. -/
def descriptions : List (String × String) :=
  [("url", "The URL to visit, required"),
   ("user-agent", "The user agent to use"),
   ("viewport-width", "The width of the viewport"),
   ("viewport-height", "The height of the viewport"),
   ("viewport-scale", "The device scale factor"),
   ("headed", "Run in headed mode, default false")]

/-- The row of a preference. -/
def preferenceRow (name description : String) : String :=
  let value := if name = "headed" then "bool" else name
  row ("--" ++ name ++ " [<" ++ value ++ ">]") description

/-- What stands behind the tables. -/
def closing : String :=
  "Actions (the order matters, can be used multiple times):\n"
    ++ "  --action <action>           Perform an action\n"
    ++ "  --assert <assert>           Perform an assert\n"
    ++ "  --query-output <path>       Save the result of the next --query to a file, "
    ++ "must be put before --query\n"
    ++ "  --query <query>             Perform a query\n"
    ++ "  --sleep <ms>                Sleep for a number of milliseconds\n"
    ++ "\n"
    ++ "Examples:\n"
    ++ "  # headed mode (i.e. visible browser) to visit bing.com and search for "
    ++ "'weather today'\n"
    ++ "  ai-runner --headed --url https://www.bing.com "
    ++ "--action \"type 'weather today' in search box, hit enter\" --sleep 3000\n"
    ++ "\n"
    ++ "  # visit github status page and save the status to ./status.json\n"
    ++ "  ai-runner --url https://www.githubstatus.com/ \\\n"
    ++ "    --query-output status.json \\\n"
    ++ "    --query '\x7bname: string, status: string\x7d[], service status of github page'\n"

/-- The whole help. -/
def text : String :=
  usage ++ "\nRun natural-language browser actions, asserts and queries in order.\n\noptions:\n"
    ++ row "-h, --help" "show this help message and exit"
    ++ row "--version" "show program's version number and exit"
    ++ "\noptions:\n"
    ++ String.join (descriptions.map fun (name, description) => preferenceRow name description)
    ++ "\n" ++ closing

/-- The answer to the question for the version. -/
def versionLine : String := programName ++ " version " ++ version ++ "\n"

/-- Every preference is described, in the order of the list. -/
theorem map_fst_descriptions : descriptions.map Prod.fst = preferenceNames := rfl

end Help
end PageScript.CommandLine
