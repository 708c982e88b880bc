import WorkHost.Command.Arguments

/-!
Contract: the help texts of the command line, line by line.
-/

namespace WorkHost.HelpTopic

def serveAbout : String := "Run the worker and the cron scheduler until ctrl-c"

def demoAbout : String := "Enqueue sample scoped and unscoped work, then shut down"

def helpAbout : String := "Print this message or the help of the given subcommand(s)"

def lines : HelpTopic → List String
  | .overview =>
    ["Background task queue host", "", "Usage: sampleapp-bg <COMMAND>", "", "Commands:",
      "  serve  " ++ serveAbout, "  demo   " ++ demoAbout, "  help   " ++ helpAbout, "",
      "Options:", "  -h, --help  Print help"]
  | .serve =>
    [serveAbout, "", "Usage: sampleapp-bg serve [OPTIONS]", "", "Options:",
      "      --jobs <JOBS>  TOML file with [[job]] entries",
      "      --json         Print worker events as JSON lines",
      "  -h, --help         Print help"]
  | .demo =>
    [demoAbout, "", "Usage: sampleapp-bg demo [OPTIONS]", "", "Options:",
      "      --items <ITEMS>            Number of work items to enqueue [default: 10]",
      "      --fail-every <FAIL_EVERY>  Make every Nth item fail (0 = never) [default: 4]",
      "      --work-ms <WORK_MS>        "
        ++ "Simulated work per item in milliseconds [default: 50]",
      "      --json                     Print worker events as JSON lines",
      "  -h, --help                     Print help"]
  | .help =>
    [helpAbout, "", "Usage: sampleapp-bg help [COMMAND]...", "", "Arguments:",
      "  [COMMAND]...  Print help for the subcommand(s)"]

end WorkHost.HelpTopic
