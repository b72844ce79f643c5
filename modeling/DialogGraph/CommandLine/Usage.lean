/-!
# Usage

How the compiler is called, in words.
-/

namespace DialogGraph.CommandLine

def usageText : String := "\n".intercalate [
  "usage: botflow-compile [-h] [--name NAME] [--token TOKEN] [--out DIR]",
  "                       [--print] [--strict]",
  "                       snapshot.json",
  ""]

def helpText : String := usageText ++ "\n".intercalate [
  "",
  "Compile a BotFlow snapshot to a standalone Telegram bot.",
  "",
  "positional arguments:",
  "  snapshot.json  Path to the exported flow snapshot.",
  "",
  "options:",
  "  -h, --help     show this help message and exit",
  "  --name NAME    Bot name embedded in the output.",
  "  --token TOKEN  Default bot token compiled into the output.",
  "  --out DIR      Output directory for the compiled .py file (default: current",
  "                 directory).",
  "  --print        Print generated source to stdout instead of writing a file.",
  "  --strict       Treat unknown block types as errors rather than warnings.",
  "",
  "botflow-compile — compile a saved flow snapshot into a standalone bot",
  "=====================================================================",
  "",
  "Usage",
  "-----",
  "    botflow-compile <snapshot.json> [options]",
  "",
  "Options",
  "-------",
  "    --name   <NAME>     Bot name embedded in the program (default: BOTFLOW_BOT_NAME or the file stem)",
  "    --token  <TOKEN>    Default bot token (default: BOTFLOW_BOT_TOKEN; BOT_TOKEN at runtime wins)",
  "    --out    <dir>      Output directory (default: current directory)",
  "    --print             Print the generated source to stdout instead of writing a file",
  "    --strict            Treat unknown block types as errors (default: warnings only)",
  "",
  "Examples",
  "--------",
  "    botflow-compile flows/pizza.json --name \"Pizza Bot\"",
  "    botflow-compile flows/pizza.json --out build/ --token 123:ABC",
  "    botflow-compile flows/pizza.json --print",
  ""]

end DialogGraph.CommandLine
