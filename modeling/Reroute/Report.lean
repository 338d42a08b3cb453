import Reroute.Gateway
import Reroute.RulesFile
import Reroute.Settings

/-!
What the command line says: how requests end, what the rules file gives reason to warn of,
and why there is nothing to run.
-/
namespace Reroute.Report

/-- How a request ends, on one line. -/
def ending (outcome : Action.Outcome) : Text :=
  match outcome.result with
  | .error reason => "failure ".toList ++ reason
  | .ok .abort => "abort".toList
  | .ok .forward =>
      let via := match outcome.request.nextHop with
        | some hop => " via ".toList ++ NextHop.render { hop with credentials := none }
        | none => []
      "forward ".toList ++ outcome.request.url ++ via
  | .ok (.send body) => "send ".toList ++ Text.quoted (Utf8.decodeLossy body)
  | .ok (.sendFile path) => "file ".toList ++ path

/-- The outcome of a URL that comes without headers. -/
def outcome (ruleset : Ruleset) (settings : Settings) (executor : Executor) (url : Text) :
    Action.Outcome :=
  ruleset.evaluate executor (Request.arriving url Headers.empty settings.documentRoot)

/-- A warning, on one line. -/
def warning (w : RulesFile.Warning) : Text := "warning: ".toList ++ w.message

/-- The wording of the errors of reading a file. -/
def readError : ReadError → Text
  | .notFound => "no such file".toList
  | .isDirectory => "is a directory".toList
  | .notADirectory => "not a directory".toList
  | .invalidPath => "not a path".toList
  | .nameTooLong => "the name is too long".toList
  | .tooManyLinks => "too many links".toList
  | .unreachable => "no such device".toList
  | .invalidData => "not UTF-8".toList

/-- Why there are no settings, on one line. -/
def settingsError (error : SettingsError) : Text :=
  match error with
  | .unreadable reason => "settings file: ".toList ++ readError reason
  | .malformed .json => "settings file: malformed JSON".toList
  | .malformed .yaml => "settings file: malformed YAML".toList
  | _ => error.message?.getD []

/-- How the program is called. -/
def usage : Text :=
  ("usage: [-c SETTINGS] [-p PORT] [--document-root ROOT] [-v]... [FILE]\n" ++
    "Reads one URL a line and tells what the rules make of it.").toList

/-- What a refused command line is answered with. -/
def argumentError : ArgumentError → Text
  | .unknownArgument => "unknown argument".toList
  | .emptyValue => "an option lacks its value".toList
  | .invalidValue => "the port is not a number of 16 bits".toList
  | .repeatedOption => "an option comes twice".toList
  | .helpRequested => usage
  | .versionRequested => "1".toList

end Reroute.Report
