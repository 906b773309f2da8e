import SqlAudit.Alert.Channel
import SqlAudit.Number.Numeral
import SqlAudit.Text.Blank

/-!
# Settings

What an environment says about auditing and alerts. `Settings.read` takes the variables of an
environment, and refuses settings that would lose alerts; `Settings.channel` is the channel that
the settings ask for.
-/

namespace SqlAudit

/-- The settings. They are values of any type, since a host may replace each of them. -/
structure Settings where
  enabled : Value
  verbose : Value
  mailTo : Value
  mailFrom : Value
  mailHost : Value
  mailPort : Value
  webhookUrl : Value
  timeout : Value

/-- Why an environment is refused. -/
inductive SettingsError where
  | badPort (text : String)
  | hugePort (digits : Nat)
  | badTimeout (text : String)
  | mailWithoutHost
  | badWebhook (url : String)
deriving DecidableEq, Repr

namespace SettingsError

/-- Whether a number cannot be read, as opposed to settings that do not go together. -/
def isUnreadable : SettingsError → Bool
  | .badPort _ | .hugePort _ | .badTimeout _ => true
  | .mailWithoutHost | .badWebhook _ => false

/-- The start of a text in quotes, of at most 200 characters. -/
def shownPort (text : String) : String :=
  String.ofList ((Text.quoted text.toList).take 200)

/-- An error in words. -/
def message : SettingsError → String
  | .badPort text => "invalid literal for int() with base 10: " ++ shownPort text
  | .hugePort digits =>
    s!"Exceeds the limit ({Numeral.digitLimit} digits) for integer string conversion: value has " ++
      s!"{digits} digits; use sys.set_int_max_str_digits() to increase the limit"
  | .badTimeout text => "could not convert string to float: " ++ (Scalar.text text).literal
  | .mailWithoutHost => "ALERT_EMAIL_TO set without SMTP_HOST in .env. " ++
      "Configure SMTP_HOST (and SMTP_PORT) to send email alerts."
  | .badWebhook url => "Invalid ALERT_WEBHOOK_URL: " ++ (Scalar.text url).literal ++
      " (expected http:// or https://)"

end SettingsError

/-- The variables of an environment. -/
abbrev Environment := List (String × String)

/-- A variable without the blanks around it, or a default. -/
def Environment.get (env : Environment) (name default : String) : String :=
  String.ofList (Text.trim ((env.lookup name).getD default).toList)

/-- A variable as a number, read from a default if it is blank. -/
def Environment.getNumeral (env : Environment) (name default : String) : String :=
  let text := env.get name default
  if text = "" then default else text

namespace Settings

/-- The title of the service. -/
def title : String := "SQLGuard - SQL Query Validator"

/-- The texts that switch something on. -/
def onWords : List String :=
  ["1", "true", "True", "YES", "yes", "on"]

/-- Whether a variable switches something on. -/
def isOn (env : Environment) (name default : String) : Bool :=
  onWords.contains (env.get name default)

/-- The settings of a host that sets nothing. -/
def standard : Settings where
  enabled := .bool true
  verbose := .bool false
  mailTo := .text ""
  mailFrom := .text "noreply@sqlguard.local"
  mailHost := .text ""
  mailPort := .int 25
  webhookUrl := .text ""
  timeout := .float (Binary64.ofDecimal false 10 0)

/-- The port for mail. -/
def readPort (env : Environment) : Except SettingsError Int :=
  let text := env.getNumeral "SMTP_PORT" "25"
  match Numeral.readInt text.toList with
  | .ok n => .ok n
  | .error .malformed => .error (.badPort text)
  | .error (.tooLong digits) => .error (.hugePort digits)

/-- The time to wait for an alert to go out. -/
def readTimeout (env : Environment) : Except SettingsError Binary64 :=
  let text := env.getNumeral "ALERT_TIMEOUT" "10"
  match Numeral.readFloat text.toList with
  | some x => .ok x
  | none => .error (.badTimeout text)

/-- Whether a text is the address of a web hook. -/
def isWebAddress (url : String) : Bool :=
  "http://".toList.isPrefixOf url.toList || "https://".toList.isPrefixOf url.toList

/-- Reads the settings from an environment. -/
def read (env : Environment) : Except SettingsError Settings := do
  let port ← readPort env
  let timeout ← readTimeout env
  let mailTo := env.get "ALERT_EMAIL_TO" ""
  let mailHost := env.get "SMTP_HOST" ""
  let webhookUrl := env.get "ALERT_WEBHOOK_URL" ""
  if mailTo ≠ "" ∧ mailHost = "" then throw .mailWithoutHost
  if webhookUrl ≠ "" ∧ !isWebAddress webhookUrl then throw (.badWebhook webhookUrl)
  return {
    enabled := .bool (isOn env "VALIDATION_ENABLED" "1")
    verbose := .bool (isOn env "VALIDATION_VERBOSE" "0")
    mailTo := .text mailTo
    mailFrom := .text (env.get "ALERT_EMAIL_FROM" "noreply@sqlguard.local")
    mailHost := .text mailHost
    mailPort := .int port
    webhookUrl := .text webhookUrl
    timeout := .float timeout }

/-- The channel that the settings ask for: a web hook before e-mail. -/
def channel (s : Settings) : Option Channel :=
  if s.webhookUrl.isTruthy then some (.webhook s.webhookUrl s.timeout)
  else if s.mailTo.isTruthy && s.mailHost.isTruthy then
    some (.email ⟨s.mailTo, s.mailFrom, s.mailHost, s.mailPort, s.timeout⟩)
  else none

end Settings

end SqlAudit
