import SqlAudit.Proofs.Number.Numeral
import SqlAudit.Proofs.Text.Trim
import SqlAudit.Settings

/-!
# Settings that keep alerts

What `Settings.read` makes of an environment, and which channel the settings then ask for. A variable
is blank (`Environment.IsBlank`) or gives a text without blanks around it (`Environment.Gives`). Main
statements:

* `Settings.readPort_cases`, `Settings.readTimeout_cases`: the two numbers, with their defaults;
* `Settings.read_cases`: the checks in their order, and the settings if all of them pass;
* `accepted_settings_keep_channel`: an environment is refused for the first check that fails, and
  if none does, no alert channel that it asks for is lost.
-/

namespace SqlAudit

/-! ## Variables -/

namespace Environment

variable {env : Environment} {name s : String}

/-- A variable is not set, or has blank characters only. -/
def IsBlank (env : Environment) (name : String) : Prop :=
  ∀ t, env.lookup name = some t → ∀ c ∈ t.toList, Text.isBlank c = true

/-- A variable is set to a text that is not empty, perhaps with blank characters around it. -/
def Gives (env : Environment) (name s : String) : Prop :=
  s ≠ "" ∧ Text.IsTrimmed s.toList ∧ ∃ t a b, env.lookup name = some t ∧
    t.toList = a ++ s.toList ++ b ∧ (∀ c ∈ a, Text.isBlank c = true) ∧
    ∀ c ∈ b, Text.isBlank c = true

theorem gives_iff : env.Gives name s ↔
    s ≠ "" ∧ ∃ t, env.lookup name = some t ∧ Text.trim t.toList = s.toList := by
  simp only [Gives, Text.trim_eq_iff]
  constructor
  · rintro ⟨hs, htrimmed, t, a, b, ht, hpad⟩
    exact ⟨hs, t, ht, htrimmed, a, b, hpad⟩
  · rintro ⟨hs, t, ht, htrimmed, a, b, hpad⟩
    exact ⟨hs, htrimmed, t, a, b, ht, hpad⟩

theorem Gives.get (h : env.Gives name s) (default : String) : env.get name default = s := by
  obtain ⟨-, t, ht, htrim⟩ := gives_iff.1 h
  rw [Environment.get, ht, Option.getD_some, htrim, String.ofList_toList]

theorem Gives.getNumeral (h : env.Gives name s) (default : String) :
    env.getNumeral name default = s := by
  simp only [Environment.getNumeral, h.get default, if_neg h.1]

theorem Gives.unique {t : String} (hs : env.Gives name s) (ht : env.Gives name t) : s = t := by
  rw [← hs.get "", ht.get]

theorem IsBlank.get_eq (h : env.IsBlank name) (default : String) :
    env.get name default = "" ∨ env.get name default = String.ofList (Text.trim default.toList) := by
  rw [Environment.get]
  cases ht : env.lookup name with
  | none => exact .inr rfl
  | some t =>
    rw [Option.getD_some, Text.trim_of_blank (h t ht)]
    exact .inl rfl

theorem IsBlank.get (h : env.IsBlank name) : env.get name "" = "" :=
  (h.get_eq "").elim id id

theorem IsBlank.getNumeral (h : env.IsBlank name) {default : String}
    (hdefault : Text.trim default.toList = default.toList) :
    env.getNumeral name default = default := by
  have hget := h.get_eq default
  rw [hdefault, String.ofList_toList] at hget
  simp only [Environment.getNumeral]
  rcases hget with hget | hget <;> simp [hget]

theorem not_gives (h : env.IsBlank name) : ¬ env.Gives name s := by
  intro hs
  exact hs.1 ((hs.get "").symm.trans h.get)

theorem isBlank_or_gives (env : Environment) (name : String) :
    env.IsBlank name ∨ ∃ s, env.Gives name s := by
  cases ht : env.lookup name with
  | none =>
    left
    intro t h
    rw [ht] at h
    cases h
  | some t =>
    by_cases htrim : Text.trim t.toList = []
    · left
      intro u hu c hc
      rw [ht] at hu
      obtain ⟨-, a, b, ht, ha, hb⟩ := Text.trim_eq_iff.1 htrim
      rw [← Option.some.inj hu, ht, List.append_nil, List.mem_append] at hc
      exact hc.elim (ha c) (hb c)
    · refine .inr ⟨String.ofList (Text.trim t.toList), gives_iff.2 ⟨?_, t, ht, ?_⟩⟩
      · intro h
        exact htrim (by rw [← String.toList_ofList (l := Text.trim _), h]; rfl)
      · rw [String.toList_ofList]

theorem get_eq_empty_iff : env.get name "" = "" ↔ env.IsBlank name := by
  refine ⟨fun h => ?_, IsBlank.get⟩
  refine (env.isBlank_or_gives name).resolve_right ?_
  rintro ⟨s, hs⟩
  exact hs.1 ((hs.get "").symm.trans h)

theorem exists_gives_iff : (∃ s, env.Gives name s) ↔ ¬ env.IsBlank name :=
  ⟨fun ⟨_, hs⟩ hblank => not_gives hblank hs, (env.isBlank_or_gives name).resolve_left⟩

/-! ## Numbers -/

section Number

variable {α : Type} {Reads : List Char → α → Prop} {d x : α}

/-- What a variable gives as a number: a default if it is blank, else what the text reads as. -/
def Number (env : Environment) (name : String) (Reads : List Char → α → Prop) (d x : α) : Prop :=
  env.IsBlank name ∧ x = d ∨ ∃ s, env.Gives name s ∧ Reads s.toList x

/-- A variable gives a text that is no number. -/
def BadNumber (env : Environment) (name : String) (Reads : List Char → α → Prop) (s : String) :
    Prop :=
  env.Gives name s ∧ ¬ ∃ x, Reads s.toList x

theorem Number.not_bad (h : env.Number name Reads d x) : ¬ env.BadNumber name Reads s := by
  rintro ⟨hs, hbad⟩
  rcases h with ⟨hblank, -⟩ | ⟨t, ht, hx⟩
  · exact not_gives hblank hs
  · exact hbad ⟨x, hs.unique ht ▸ hx⟩

/-- The text of a number reads as the number, or the variable gives a text that is none. -/
theorem number_or_bad (env : Environment) (name text : String)
    (htext : Text.trim text.toList = text.toList) (hd : Reads text.toList d) :
    (∃ x, env.Number name Reads d x ∧ Reads (env.getNumeral name text).toList x) ∨
      env.BadNumber name Reads (env.getNumeral name text) := by
  rcases env.isBlank_or_gives name with hblank | ⟨s, hs⟩
  · refine .inl ⟨d, .inl ⟨hblank, rfl⟩, ?_⟩
    rwa [hblank.getNumeral htext]
  · rw [hs.getNumeral]
    by_cases hread : ∃ x, Reads s.toList x
    · obtain ⟨x, hx⟩ := hread
      exact .inl ⟨x, .inr ⟨s, hs, hx⟩, hx⟩
    · exact .inr ⟨hs, hread⟩

end Number

/-- The port for mail. -/
def Port (env : Environment) (n : Int) : Prop :=
  env.Number "SMTP_PORT" Numeral.IsInteger 25 n

/-- The time to wait for an alert to go out. -/
def Timeout (env : Environment) (x : Binary64) : Prop :=
  env.Number "ALERT_TIMEOUT" Numeral.IsFloat (Binary64.ofDecimal false 10 0) x

/-- The port is given, but is no integer. -/
def BadPort (env : Environment) (s : String) : Prop :=
  env.BadNumber "SMTP_PORT" Numeral.IsInteger s

/-- The time to wait is given, but is no number. -/
def BadTimeout (env : Environment) (s : String) : Prop :=
  env.BadNumber "ALERT_TIMEOUT" Numeral.IsFloat s

/-- Somebody should get mail, but no host is given. -/
def MailWithoutHost (env : Environment) : Prop :=
  (∃ s, env.Gives "ALERT_EMAIL_TO" s) ∧ env.IsBlank "SMTP_HOST"

/-- A text starts like the address of a web hook. -/
def IsWebAddress (s : String) : Prop :=
  "http://".toList <+: s.toList ∨ "https://".toList <+: s.toList

/-- The address of a web hook is given, but does not start like one. -/
def BadWebhook (env : Environment) (s : String) : Prop :=
  env.Gives "ALERT_WEBHOOK_URL" s ∧ ¬ IsWebAddress s

end Environment

namespace Settings

open Environment

variable {env : Environment} {port : Int} {timeout : Binary64}

/-! ## Reading -/

theorem readPort_cases (env : Environment) : (∃ n, env.Port n ∧ readPort env = .ok n) ∨
    ∃ s, env.BadPort s ∧
      (readPort env = .error (.badPort s) ∨ ∃ d, readPort env = .error (.hugePort d)) := by
  delta readPort
  dsimp only
  rcases env.number_or_bad "SMTP_PORT" "25" (by decide)
    (Numeral.readInt_eq_ok_iff.1 rfl) with ⟨n, hn, hread⟩ | hbad
  · rw [Numeral.readInt_eq_ok_iff.2 hread]
    exact .inl ⟨n, hn, rfl⟩
  · refine .inr ⟨_, hbad, ?_⟩
    cases hread : Numeral.readInt (env.getNumeral "SMTP_PORT" "25").toList with
    | ok n => exact absurd ⟨n, Numeral.readInt_eq_ok_iff.1 hread⟩ hbad.2
    | error e =>
      cases e with
      | malformed => exact .inl rfl
      | tooLong d => exact .inr ⟨d, rfl⟩

theorem readTimeout_cases (env : Environment) : (∃ x, env.Timeout x ∧ readTimeout env = .ok x) ∨
    ∃ s, env.BadTimeout s ∧ readTimeout env = .error (.badTimeout s) := by
  delta readTimeout
  dsimp only
  rcases env.number_or_bad "ALERT_TIMEOUT" "10" (by decide)
    (Numeral.readFloat_eq_some_iff.1 rfl) with ⟨x, hx, hread⟩ | hbad
  · rw [Numeral.readFloat_eq_some_iff.2 hread]
    exact .inl ⟨x, hx, rfl⟩
  · refine .inr ⟨_, hbad, ?_⟩
    cases hread : Numeral.readFloat (env.getNumeral "ALERT_TIMEOUT" "10").toList with
    | some x => exact absurd ⟨x, Numeral.readFloat_eq_some_iff.1 hread⟩ hbad.2
    | none => rfl

theorem isWebAddress_iff {s : String} : isWebAddress s = true ↔ IsWebAddress s := by
  rw [isWebAddress, Bool.or_eq_true, List.isPrefixOf_iff_prefix, List.isPrefixOf_iff_prefix,
    IsWebAddress]

/-- The settings of an environment with this port and this time to wait. -/
def accepted (env : Environment) (port : Int) (timeout : Binary64) : Settings where
  enabled := .bool (isOn env "VALIDATION_ENABLED" "1")
  verbose := .bool (isOn env "VALIDATION_VERBOSE" "0")
  mailTo := .text (env.get "ALERT_EMAIL_TO" "")
  mailFrom := .text (env.get "ALERT_EMAIL_FROM" "noreply@sqlguard.local")
  mailHost := .text (env.get "SMTP_HOST" "")
  mailPort := .int port
  webhookUrl := .text (env.get "ALERT_WEBHOOK_URL" "")
  timeout := .float timeout

/-- Once the numbers are read, the channels are checked. -/
theorem read_of_numbers (hport : readPort env = .ok port) (htimeout : readTimeout env = .ok timeout) :
    read env =
      if env.get "ALERT_EMAIL_TO" "" ≠ "" ∧ env.get "SMTP_HOST" "" = "" then .error .mailWithoutHost
      else if env.get "ALERT_WEBHOOK_URL" "" ≠ "" ∧ !isWebAddress (env.get "ALERT_WEBHOOK_URL" "") then
        .error (.badWebhook (env.get "ALERT_WEBHOOK_URL" ""))
      else .ok (accepted env port timeout) := by
  have hok {α β : Type} (a : α) (f : α → Except SettingsError β) : (.ok a >>= f) = f a := rfl
  have hthrow {α β : Type} (e : SettingsError) (f : α → Except SettingsError β) :
      (throw e >>= f) = .error e := rfl
  simp only [read, hport, htimeout, hok, hthrow]
  rfl

/-- The checks in their order, and the settings if all of them pass. -/
theorem read_cases (env : Environment) :
    (∃ s, env.BadPort s ∧ (read env = .error (.badPort s) ∨ ∃ d, read env = .error (.hugePort d))) ∨
    ∃ port, env.Port port ∧
      ((∃ s, env.BadTimeout s ∧ read env = .error (.badTimeout s)) ∨
      ∃ timeout, env.Timeout timeout ∧
        (env.MailWithoutHost ∧ read env = .error .mailWithoutHost ∨
        ¬ env.MailWithoutHost ∧
          ((∃ s, env.BadWebhook s ∧ read env = .error (.badWebhook s)) ∨
          (∀ s, ¬ env.BadWebhook s) ∧ read env = .ok (accepted env port timeout)))) := by
  have hmail : env.get "ALERT_EMAIL_TO" "" ≠ "" ∧ env.get "SMTP_HOST" "" = "" ↔
      env.MailWithoutHost := by
    rw [Ne, get_eq_empty_iff, get_eq_empty_iff, MailWithoutHost, exists_gives_iff]
  rcases readPort_cases env with ⟨port, hport, hreadPort⟩ | ⟨s, hbad, hreadPort⟩
  · refine .inr ⟨port, hport, ?_⟩
    rcases readTimeout_cases env with ⟨timeout, htimeout, hreadTimeout⟩ | ⟨s, hbad, hreadTimeout⟩
    · refine .inr ⟨timeout, htimeout, ?_⟩
      rw [read_of_numbers hreadPort hreadTimeout]
      split
      · next h => exact .inl ⟨hmail.1 h, rfl⟩
      · next h =>
        refine .inr ⟨mt hmail.2 h, ?_⟩
        rcases env.isBlank_or_gives "ALERT_WEBHOOK_URL" with hblank | ⟨url, hurl⟩
        · rw [hblank.get, if_neg fun h => h.1 rfl]
          exact .inr ⟨fun s hs => not_gives hblank hs.1, rfl⟩
        · rw [hurl.get]
          by_cases hweb : IsWebAddress url
          · rw [if_neg (by simp [isWebAddress_iff.2 hweb])]
            exact .inr ⟨fun s hs => hs.2 (hurl.unique hs.1 ▸ hweb), rfl⟩
          · rw [if_pos ⟨hurl.1, by simpa [← isWebAddress_iff] using hweb⟩]
            exact .inl ⟨url, ⟨hurl, hweb⟩, rfl⟩
    · refine .inl ⟨s, hbad, ?_⟩
      rw [read, hreadPort, hreadTimeout]
      rfl
  · refine .inl ⟨s, hbad, ?_⟩
    rcases hreadPort with h | ⟨d, h⟩
    · left
      rw [read, h]
      rfl
    · right
      refine ⟨d, ?_⟩
      rw [read, h]
      rfl

theorem eq_accepted_of_read {st : Settings} (h : read env = .ok st) :
    ∃ port timeout, env.Port port ∧ env.Timeout timeout ∧ ¬ env.MailWithoutHost ∧
      (∀ s, ¬ env.BadWebhook s) ∧ st = accepted env port timeout := by
  rcases read_cases env with ⟨s, -, hread | ⟨d, hread⟩⟩ | ⟨port, hport, ⟨s, -, hread⟩ |
    ⟨timeout, htimeout, ⟨-, hread⟩ | ⟨hmail, ⟨s, -, hread⟩ | ⟨hhook, hread⟩⟩⟩⟩
  all_goals
    rw [hread] at h
    cases h
  exact ⟨port, timeout, hport, htimeout, hmail, hhook, rfl⟩

/-! ## Channels -/

theorem isTruthy_text (s : String) : (Value.text s).isTruthy = true ↔ s ≠ "" :=
  bne_iff_ne

section Channel

variable {url recipient host : String}

theorem channel_of_webhook (hurl : env.Gives "ALERT_WEBHOOK_URL" url) :
    (accepted env port timeout).channel = some (.webhook (.text url) (.float timeout)) := by
  simp only [channel, accepted, hurl.get, if_pos ((isTruthy_text url).2 hurl.1)]

theorem channel_of_mail (hblank : env.IsBlank "ALERT_WEBHOOK_URL")
    (hrecipient : env.Gives "ALERT_EMAIL_TO" recipient) (hhost : env.Gives "SMTP_HOST" host) :
    (accepted env port timeout).channel = some (.email ⟨.text recipient,
      .text (env.get "ALERT_EMAIL_FROM" "noreply@sqlguard.local"), .text host, .int port,
      .float timeout⟩) := by
  have htruthy : ((Value.text recipient).isTruthy && (Value.text host).isTruthy) = true := by
    rw [Bool.and_eq_true, isTruthy_text, isTruthy_text]
    exact ⟨hrecipient.1, hhost.1⟩
  simp only [channel, accepted, hblank.get, hrecipient.get, hhost.get, if_pos htruthy]
  rfl

theorem channel_of_blank (hwebhook : env.IsBlank "ALERT_WEBHOOK_URL")
    (hmail : env.IsBlank "ALERT_EMAIL_TO") : (accepted env port timeout).channel = none := by
  simp only [channel, accepted, hwebhook.get, hmail.get]
  rfl

theorem exists_host (hmail : ¬ env.MailWithoutHost)
    (hrecipient : env.Gives "ALERT_EMAIL_TO" recipient) : ∃ host, env.Gives "SMTP_HOST" host := by
  rw [exists_gives_iff]
  exact fun hblank => hmail ⟨⟨recipient, hrecipient⟩, hblank⟩

theorem channel_eq_none_iff (hmail : ¬ env.MailWithoutHost) :
    (accepted env port timeout).channel = none ↔
      env.IsBlank "ALERT_WEBHOOK_URL" ∧ env.IsBlank "ALERT_EMAIL_TO" := by
  constructor
  · intro hnone
    rcases env.isBlank_or_gives "ALERT_WEBHOOK_URL" with hwebhook | ⟨url, hurl⟩
    · rcases env.isBlank_or_gives "ALERT_EMAIL_TO" with hblank | ⟨recipient, hrecipient⟩
      · exact ⟨hwebhook, hblank⟩
      · obtain ⟨host, hhost⟩ := exists_host hmail hrecipient
        rw [channel_of_mail hwebhook hrecipient hhost] at hnone
        cases hnone
    · rw [channel_of_webhook hurl] at hnone
      cases hnone
  · rintro ⟨hwebhook, hblank⟩
    exact channel_of_blank hwebhook hblank

end Channel

end Settings

/-- Settings that are accepted ask for the web hook if one is given, else for mail if somebody should
get it, and for no channel only if both variables are blank. An environment is refused for the first of
four checks that fails: that the port is an integer, that the time to wait is a number, that there is a
host if somebody gets mail, and that the address of the web hook starts like one. It is unreadable if
one of the first two does. -/
theorem accepted_settings_keep_channel (env : Environment) :
    (∀ st, Settings.read env = .ok st →
      (∀ url, env.Gives "ALERT_WEBHOOK_URL" url → Environment.IsWebAddress url ∧
        ∃ timeout, env.Timeout timeout ∧
          st.channel = some (.webhook (.text url) (.float timeout))) ∧
      (env.IsBlank "ALERT_WEBHOOK_URL" → ∀ recipient, env.Gives "ALERT_EMAIL_TO" recipient →
        ∃ host port timeout, env.Gives "SMTP_HOST" host ∧ env.Port port ∧ env.Timeout timeout ∧
          st.channel = some (.email ⟨.text recipient,
            .text (env.get "ALERT_EMAIL_FROM" "noreply@sqlguard.local"), .text host, .int port,
            .float timeout⟩)) ∧
      (st.channel = none ↔ env.IsBlank "ALERT_WEBHOOK_URL" ∧ env.IsBlank "ALERT_EMAIL_TO")) ∧
    ((∃ st, Settings.read env = .ok st) ↔ (∃ n, env.Port n) ∧ (∃ x, env.Timeout x) ∧
      ¬ env.MailWithoutHost ∧ ∀ s, ¬ env.BadWebhook s) ∧
    ((∃ s, Settings.read env = .error (.badPort s)) ∨
      (∃ d, Settings.read env = .error (.hugePort d)) ↔ ∃ s, env.BadPort s) ∧
    (∀ s, Settings.read env = .error (.badPort s) → env.BadPort s) ∧
    (∀ s, Settings.read env = .error (.badTimeout s) ↔ (∃ n, env.Port n) ∧ env.BadTimeout s) ∧
    (Settings.read env = .error .mailWithoutHost ↔
      (∃ n, env.Port n) ∧ (∃ x, env.Timeout x) ∧ env.MailWithoutHost) ∧
    (∀ s, Settings.read env = .error (.badWebhook s) ↔
      (∃ n, env.Port n) ∧ (∃ x, env.Timeout x) ∧ ¬ env.MailWithoutHost ∧ env.BadWebhook s) ∧
    (∀ e, Settings.read env = .error e →
      (e.isUnreadable = true ↔ (∃ s, env.BadPort s) ∨ ∃ s, env.BadTimeout s)) := by
  constructor
  · intro st hread
    obtain ⟨port, timeout, hport, htimeout, hmail, hhook, rfl⟩ := Settings.eq_accepted_of_read hread
    refine ⟨fun url hurl => ⟨?_, timeout, htimeout, Settings.channel_of_webhook hurl⟩,
      fun hblank recipient hrecipient => ?_, ?_⟩
    · exact Classical.byContradiction fun hweb => hhook url ⟨hurl, hweb⟩
    · obtain ⟨host, hhost⟩ := Settings.exists_host hmail hrecipient
      exact ⟨host, port, timeout, hhost, hport, htimeout,
        Settings.channel_of_mail hblank hrecipient hhost⟩
    · exact Settings.channel_eq_none_iff hmail
  · have hport {n s} : env.Port n → ¬ env.BadPort s := Environment.Number.not_bad
    have htimeout {x s} : env.Timeout x → ¬ env.BadTimeout s := Environment.Number.not_bad
    have htext {s t} (hs : env.BadTimeout s) (ht : env.BadTimeout t) : s = t := hs.1.unique ht.1
    have hurl {s t} (hs : env.BadWebhook s) (ht : env.BadWebhook t) : s = t := hs.1.unique ht.1
    -- Each way in which reading ends decides every one of the statements.
    rcases Settings.read_cases env with ⟨s, hbad, hread | ⟨d, hread⟩⟩ | ⟨port, hp, ⟨s, hbad, hread⟩ |
      ⟨timeout, ht, ⟨hmail, hread⟩ | ⟨hmail, ⟨s, hbad, hread⟩ | ⟨hhook, hread⟩⟩⟩⟩
    all_goals
      simp only [hread]
      grind [SettingsError.isUnreadable]

/-- Blanks around variables, and an address of blanks, lose no mail. -/
theorem padded_recipient_mailed :
    let env : Environment := [("ALERT_EMAIL_TO", " ops@example.com\t"), ("ALERT_WEBHOOK_URL", "  "),
      ("SMTP_HOST", "mail.local "), ("SMTP_PORT", " 2_525")]
    env.IsBlank "ALERT_WEBHOOK_URL" ∧ env.Gives "ALERT_EMAIL_TO" "ops@example.com" ∧
      ∃ st host port timeout, Settings.read env = .ok st ∧ env.Gives "SMTP_HOST" host ∧
        env.Port port ∧ env.Timeout timeout ∧
        st.channel = some (.email ⟨.text "ops@example.com", .text "noreply@sqlguard.local",
          .text host, .int port, .float timeout⟩) := by
  intro env
  have hblank : env.IsBlank "ALERT_WEBHOOK_URL" := Environment.get_eq_empty_iff.1 (by decide)
  have hrecipient : env.Gives "ALERT_EMAIL_TO" "ops@example.com" :=
    Environment.gives_iff.2 ⟨by decide, _, rfl, by decide⟩
  have hhost : env.Gives "SMTP_HOST" "mail.local" :=
    Environment.gives_iff.2 ⟨by decide, _, rfl, by decide⟩
  have hport : env.Port 2525 :=
    .inr ⟨"2_525", Environment.gives_iff.2 ⟨by decide, _, rfl, by decide⟩,
      Numeral.readInt_eq_ok_iff.1 (by rfl)⟩
  have htimeout : env.Timeout (Binary64.ofDecimal false 10 0) :=
    .inl ⟨Environment.get_eq_empty_iff.1 (by decide), rfl⟩
  obtain ⟨haccepted, hiff, -⟩ := accepted_settings_keep_channel env
  obtain ⟨st, hread⟩ := hiff.2 ⟨⟨_, hport⟩, ⟨_, htimeout⟩,
    fun h => Environment.not_gives h.2 hhost, fun s hs => Environment.not_gives hblank hs.1⟩
  obtain ⟨host, port, timeout, hgiven⟩ := (haccepted st hread).2.1 hblank _ hrecipient
  have hsender : env.get "ALERT_EMAIL_FROM" "noreply@sqlguard.local" = "noreply@sqlguard.local" := by
    decide
  rw [hsender] at hgiven
  exact ⟨hblank, hrecipient, st, host, port, timeout, hread, hgiven⟩

end SqlAudit
