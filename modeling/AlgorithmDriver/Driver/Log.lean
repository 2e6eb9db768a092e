import AlgorithmDriver.Driver.Error

/-!
# The log

The driver keeps a record of every resource that it starts, opens, closes or finds left over.
-/

namespace AlgorithmDriver

/-- How important an entry of the log is. -/
inductive LogLevel where
  | debug
  | info
  | warn
  deriving DecidableEq, Repr

/-- The name of a level. -/
def LogLevel.name : LogLevel → String
  | debug => "DEBUG"
  | info => "INFO"
  | warn => "WARN"

/-- A channel of either direction. -/
inductive ChannelId where
  | read (id : ReadFileId)
  | write (id : WriteFileId)
  deriving DecidableEq, Repr

/-- A channel as it is shown in messages. -/
def ChannelId.text : ChannelId → String
  | read id => id.text
  | write id => id.text

/-- What the driver puts on record. -/
inductive LogEntry where
  | started (name : String) (id : AlgorithmId)
  /-- The process of the algorithm was found to have ended on its own. -/
  | exited (name : String) (code : Nat)
  /-- The kill signal was sent to the process of the algorithm. -/
  | signalled (name : String)
  /-- The algorithm was killed on request. -/
  | killed (id : AlgorithmId)
  | opened (path : String) (channel : ChannelId)
  | closed (channel : ChannelId) (path : String)
  | killingLeftover (id : AlgorithmId) (name : String)
  | cannotKill (id : AlgorithmId) (error : DriverError)
  | closingLeftover (channel : ChannelId) (path : String)
  | cannotFlush (id : WriteFileId) (error : StreamError)
  /-- The input of an algorithm could not be copied completely. -/
  | inputNotConsumed (id : AlgorithmId) (error : StreamError)
  deriving DecidableEq, Repr

namespace LogEntry

/-- The level of an entry. -/
def level : LogEntry → LogLevel
  | started .. => .info
  | exited .. => .debug
  | signalled _ => .debug
  | killed _ => .info
  | opened .. => .debug
  | closed .. => .debug
  | killingLeftover .. => .warn
  | cannotKill .. => .warn
  | closingLeftover .. => .warn
  | cannotFlush .. => .warn
  | inputNotConsumed .. => .warn

/-- The wording of an entry. -/
def message : LogEntry → String
  | started name id => "Started algorithm " ++ name ++ " as " ++ id.text
  | exited name code => "Algorithm " ++ name ++ " exited with code " ++ Decimal.text code
  | signalled name => "Algorithm " ++ name ++ " killed"
  | killed id => "Killed " ++ id.text
  | opened path channel => "Opened " ++ Text.quoted path ++ " as " ++ channel.text
  | closed channel path => "Closed " ++ channel.text ++ " (" ++ Text.quoted path ++ ")"
  | killingLeftover id name => "Killing leftover " ++ id.text ++ " (" ++ name ++ ")"
  | cannotKill id error => "Cannot kill " ++ id.text ++ ": " ++ error.message
  | closingLeftover channel path =>
    "Closing leftover " ++ channel.text ++ " (" ++ Text.quoted path ++ ")"
  | cannotFlush id error => "Cannot flush " ++ id.text ++ ": " ++ error.message
  | inputNotConsumed id error =>
    "Input not fully consumed by " ++ id.text ++ ": " ++ error.message

/-- An entry as a line of the log. -/
def line (entry : LogEntry) : String := entry.level.name ++ " " ++ entry.message

end LogEntry

end AlgorithmDriver
