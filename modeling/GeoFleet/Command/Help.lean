/-! What the program says about its arguments. -/
namespace GeoFleet.Command.Help

def program : List String := [
  "geoscale decision daemon",
  "",
  "Usage: geoscaled [OPTIONS] <COMMAND>",
  "",
  "Commands:",
  "  run    Evaluate the fleet on a fixed interval until interrupted",
  "  check  Validate a config file and print what it defines",
  "  init   Write a starter config file",
  "  help   Print this message or the help of the given subcommand(s)",
  "",
  "Options:",
  "      --json-logs  Emit logs as JSON lines",
  "  -h, --help       Print help"]

def run : List String := [
  "Evaluate the fleet on a fixed interval until interrupted",
  "",
  "Usage: geoscaled run [OPTIONS]",
  "",
  "Options:",
  "      --config <CONFIG>      [default: geoscale.toml]",
  "      --json-logs            Emit logs as JSON lines",
  "      --data-dir <DATA_DIR>  Data directory for persistent state [default: /var/lib/geoscale]",
  "      --interval <INTERVAL>  Evaluation interval, overriding \x60monitoring.interval\x60 (e.g. \"30s\")",
  "      --dry-run              Log actions instead of executing them",
  "  -h, --help                 Print help"]

def check : List String := [
  "Validate a config file and print what it defines",
  "",
  "Usage: geoscaled check [OPTIONS]",
  "",
  "Options:",
  "      --config <CONFIG>  [default: geoscale.toml]",
  "      --json-logs        Emit logs as JSON lines",
  "  -h, --help             Print help"]

def init : List String := [
  "Write a starter config file",
  "",
  "Usage: geoscaled init [OPTIONS]",
  "",
  "Options:",
  "      --json-logs        Emit logs as JSON lines",
  "      --output <OUTPUT>  [default: geoscale.toml]",
  "      --force            Overwrite an existing file",
  "  -h, --help             Print help"]

def help : List String := [
  "Print this message or the help of the given subcommand(s)",
  "",
  "Usage: geoscaled help [COMMAND]...",
  "",
  "Arguments:",
  "  [COMMAND]...  Print help for the subcommand(s)"]

end GeoFleet.Command.Help
