import FeedFanout.Settings.Key
import FeedFanout.Text.Terminal

/-!
The command line's options, and the help that lists them, in its styles. Help texts stand beside the options in a
column, or all below them if the column would take too much of a line and some text would not fit.
-/
namespace FeedFanout.CommandLine

open Settings (Key)
open Text.Terminal (styled)

/-- The name of the program. -/
def program : String := "homefeed"

def version : String := "0.1.0"

/-- The variable that names a configuration file. -/
def fileVariable : String := "HOMEFEED_CONFIG_FILE"

/-- An option with a value. -/
inductive Choice
  | configFile
  | setting (key : Key)
deriving DecidableEq, Repr

namespace Choice

/-- The name behind two hyphens. -/
def name : Choice → String
  | .configFile => "config-file"
  | .setting .host => "server-host"
  | .setting .port => "server-port"
  | .setting .gracefulShutdown => "server-graceful-shutdown-seconds"
  | .setting .level => "log-level"
  | .setting .json => "log-json"
  | .setting .url => "database-url"
  | .setting .maxConnections => "database-max-connections"
  | .setting .cacheCapacity => "feed-cache-capacity"
  | .setting .policy => "feed-fanout-policy"
  | .setting .ioTimeout => "feed-io-timeout-ms"
  | .setting .channelCapacity => "notifier-channel-capacity"
  | .setting .onStartup => "warm-on-startup"
  | .setting .interval => "warm-interval-seconds"
  | .setting .concurrency => "warm-concurrency"

/-- What the value is called. -/
def valueName : Choice → String
  | .configFile => "PATH"
  | .setting .host => "HOST"
  | .setting .port => "PORT"
  | .setting .gracefulShutdown => "SECONDS"
  | .setting .level => "LEVEL"
  | .setting .json => "BOOL"
  | .setting .url => "URL"
  | .setting .maxConnections => "COUNT"
  | .setting .cacheCapacity => "COUNT"
  | .setting .policy => "POLICY"
  | .setting .ioTimeout => "MILLIS"
  | .setting .channelCapacity => "COUNT"
  | .setting .onStartup => "BOOL"
  | .setting .interval => "SECONDS"
  | .setting .concurrency => "COUNT"

def help : Choice → String
  | .configFile => "Optional path to a configuration file"
  | .setting .host => "Override the listener host"
  | .setting .port => "Override the listener port"
  | .setting .gracefulShutdown => "Override the graceful shutdown timeout"
  | .setting .level => "Override the base log level (trace|debug|info|warn|error)"
  | .setting .json => "Toggle JSON logging"
  | .setting .url => "Override the database connection URL. Without one, posts and friendships live in memory"
  | .setting .maxConnections => "Override the database pool size"
  | .setting .cacheCapacity => "Override the number of entries kept per cached feed"
  | .setting .policy => "Override the fanout failure policy (fail_fast|best_effort)"
  | .setting .ioTimeout => "Override the per-call deadline for stores, caches and notifiers"
  | .setting .channelCapacity => "Override how many messages a live viewer may lag behind"
  | .setting .onStartup => "Rebuild every cached feed before accepting traffic"
  | .setting .interval => "Rebuild every cached feed periodically; zero disables"
  | .setting .concurrency => "Override how many users are warmed concurrently"

/-- The option as usage shows it. -/
def shown (choice : Choice) : String := s!"--{choice.name} <{choice.valueName}>"

end Choice

/-! ### Layout -/

/-- Characters on a line. -/
def lineWidth : Nat := 100

def blanks (n : Nat) : String := String.ofList (List.replicate n ' ')

/-- An option of a help text: its letter, its name, its value, what it does, and notes in brackets. -/
structure Item where
  letter : Option Char
  name : String
  value : String
  help : String
  notes : String

namespace Item

def text (item : Item) : String := if item.notes.isEmpty then item.help else s!"{item.help} {item.notes}"

/-- Characters of the name and the value. -/
def width (item : Item) : Nat := item.name.length + item.value.length

/-- The letter, or blanks in place of it, the name and the value. -/
def lead (item : Item) : String :=
  let letter := match item.letter with
    | some letter => "  " ++ styled s!"-{letter}" ++ ", "
    | none => blanks 6
  letter ++ styled item.name ++ item.value

end Item

/-- Room for the widest option and for what stands around it. -/
def columnWidth (items : List Item) : Nat := (items.map Item.width).foldl max 0 + 8

/-- The help texts stand below their options: the column takes over two fifths of a line, and some text is longer
than the rest of it. -/
def isStacked (items : List Item) : Bool :=
  let taken := columnWidth items + 4
  lineWidth * 2 < taken * 5 && items.any fun item => lineWidth - taken < item.text.length

/-- The text with blanks in front of each line but the first. -/
def indented (n : Nat) (text : String) : String :=
  String.ofList (text.toList.flatMap fun c => if c = '\n' then '\n' :: List.replicate n ' ' else [c])

def itemLines (stacked : Bool) (width : Nat) (item : Item) : String :=
  if stacked then s!"{item.lead}\n{blanks 10}{indented 10 item.text}\n"
  else s!"{item.lead}{blanks (width - 6 - item.width)}{indented width item.text}\n"

/-- A list of options. -/
def itemList (items : List Item) : String :=
  String.join (items.map (itemLines (isStacked items) (columnWidth items)))

/-! ### Texts -/

def Choice.item (choice : Choice) (notes : String) : Item :=
  ⟨none, s!"--{choice.name}", s!" <{choice.valueName}>", choice.help, notes⟩

def helpItem : Item := ⟨some 'h', "--help", "", "Print help", ""⟩
def versionItem : Item := ⟨some 'V', "--version", "", "Print version", ""⟩

/-- Help of the program; `file` is the value of the variable that names a file. -/
def programHelp (file : String) : String :=
  let items := [Choice.configFile.item s!"[env: {fileVariable}={file}]", helpItem, versionItem]
  s!"Home feed fanout service\n\nUsage: {program} [OPTIONS] [COMMAND]\n\nCommands:\n" ++
  "  serve  Run the HTTP service\n  help   Print this message or the help of the given subcommand(s)\n\n" ++
  s!"Options:\n{itemList items}"

def settingItem (key : Key) : Item :=
  (Choice.setting key).item (match key.kind with
    | .flag => "[possible values: true, false]"
    | _ => "")

/-- Help of the command that runs the service. -/
def serveHelp : String :=
  s!"Run the HTTP service\n\nUsage: {program} serve [OPTIONS]\n\nOptions:\n" ++
  itemList (Key.all.map settingItem ++ [helpItem])

/-- Help of the command that prints help. -/
def helpHelp : String :=
  s!"Print this message or the help of the given subcommand(s)\n\nUsage: {program} help [COMMAND]...\n\nArguments:\n" ++
  "  [COMMAND]...  Print help for the subcommand(s)\n"

def versionText : String := s!"{program} {version}\n"

end FeedFanout.CommandLine
