/-!
The texts that explain the commands.

Every text says what a command does, how it is used and which options it has; the options that all
commands share come last, apart from the command that has options of its own.
-/

namespace Screensaver.CommandLine

/-- Lines with the newline at the end of each. -/
def lines (ls : List String) : String :=
  String.join (ls.map (· ++ "\n"))

/-- The options that all commands share. -/
def sharedOptions : List String :=
  ["      --config string      Path to config YAML",
    "      --log-file string    Write logs to this file (default: discard)",
    "      --log-level string   Log level: debug, info, warn, error (default \"info\")",
    "      --seed int           RNG seed (0 = random based on time)"]

/-- The text for a command that has no options of its own. -/
def plainHelp (description : List String) (usage name : String) : String :=
  lines (description ++
    ["",
      "Usage:",
      "  randscreen " ++ usage ++ " [flags]",
      "",
      "Flags:",
      "  -h, --help   help for " ++ name,
      "",
      "Global Flags:"] ++ sharedOptions)

/-- The text for the screensaver itself. -/
def saverHelp : String :=
  lines
    ["randscreen paints random printable characters in random foreground and",
      "background colors at random positions of the terminal. Press any key to stop;",
      "the original colors are restored and the screen is cleared.",
      "",
      "Examples:",
      "  randscreen",
      "  randscreen --backend tui",
      "  randscreen --count 4000 --title \"Goofy Chars!\"",
      "  randscreen --interval 20ms --seed 42",
      "",
      "Usage:",
      "  randscreen [flags]",
      "  randscreen [command]",
      "",
      "Available Commands:",
      "  backends    List available terminal backends",
      "  completion  Generate the autocompletion script for the specified shell",
      "  help        Help about any command",
      "  palette     Show the color palette",
      "",
      "Flags:",
      "      --backend string      Terminal backend (see 'randscreen backends') (default \"console\")",
      "      --config string       Path to config YAML",
      "      --count int           Stop after this many characters (0 = until a key is pressed)",
      "  -h, --help                help for randscreen",
      "      --interval duration   Pause after each character (default 5ms)",
      "      --log-file string     Write logs to this file (default: discard)",
      "      --log-level string    Log level: debug, info, warn, error (default \"info\")",
      "      --seed int            RNG seed (0 = random based on time)",
      "      --title string        Window title to set while running",
      "",
      "Use \"randscreen [command] --help\" for more information about a command."]

/-- The text for the table of colours. -/
def paletteHelp : String :=
  plainHelp ["Shows the 16 colors that foreground and background are drawn from."] "palette" "palette"

/-- The text for the table of backends. -/
def backendsHelp : String :=
  plainHelp ["Shows the terminal backends the screensaver can run on."] "backends" "backends"

/-- The text for help itself. -/
def helpHelp : String :=
  plainHelp
    ["Help provides help for any command in the application.",
      "Simply type randscreen help [path to command] for full details."]
    "help [command]" "help"

end Screensaver.CommandLine
