import SignalForge.SipParser
import SignalForge.TextSplitting

/-! The grammar of the From header, and for which of its values the device label is the user part
of the URI. -/

set_option autoImplicit false

namespace SignalForge

namespace SipGrammar

def isUnreserved (c : Char) : Bool := c.isAlphanum || "-_.!~*'()".toList.contains c

def isTokenChar (c : Char) : Bool := c.isAlphanum || "-.!%*_+`'~".toList.contains c

def isUserChar (c : Char) : Bool := isUnreserved c || "&=+$,;?/".toList.contains c

def isPasswordChar (c : Char) : Bool := isUnreserved c || "&=+$,".toList.contains c

/-- Of a name, an IPv4 address or an IPv6 reference. -/
def isHostChar (c : Char) : Bool := c.isAlphanum || "-.:[]".toList.contains c

def isParameterChar (c : Char) : Bool := isUnreserved c || "[]/:&+$".toList.contains c

def isHeaderChar (c : Char) : Bool := isUnreserved c || "[]/?:+$".toList.contains c

def isHexDigit (c : Char) : Bool := c.isDigit || ('a' ≤ c && c ≤ 'f') || ('A' ≤ c && c ≤ 'F')

/-- The characters allowed, and others as a percent sign and two hexadecimal digits. -/
def isEscaped (allowed : Char → Bool) : Str → Bool
  | [] => true
  | '%' :: high :: low :: rest => isHexDigit high && isHexDigit low && isEscaped allowed rest
  | c :: rest => allowed c && isEscaped allowed rest

/-- What stands between the quotes of a quoted string. -/
def isQuoted : Str → Bool
  | [] => true
  | '\\' :: c :: rest => c ≠ '\n' && c ≠ '\r' && c.toNat < 128 && isQuoted rest
  | c :: rest => c ≠ '"' && c ≠ '\\' && (c = '\t' || 32 ≤ c.toNat) && c.toNat ≠ 127 && isQuoted rest

abbrev Blank : Type := { text : Str // text.all fun c => c = ' ' || c = '\t' }

abbrev Token : Type := { text : Str // text ≠ [] ∧ text.all isTokenChar }

abbrev QuotedText : Type := { text : Str // isQuoted text }

abbrev Scheme : Type :=
  { text : Str // text.map Char.toLower = "sip".toList ∨ text.map Char.toLower = "sips".toList }

abbrev User : Type := { text : Str // text ≠ [] ∧ isEscaped isUserChar text }

abbrev Password : Type := { text : Str // isEscaped isPasswordChar text }

abbrev Host : Type := { text : Str // text ≠ [] ∧ text.all isHostChar }

abbrev Port : Type := { text : Str // text ≠ [] ∧ text.all Char.isDigit }

abbrev ParameterText : Type := { text : Str // text ≠ [] ∧ isEscaped isParameterChar text }

abbrev HeaderName : Type := { text : Str // text ≠ [] ∧ isEscaped isHeaderChar text }

abbrev HeaderValue : Type := { text : Str // isEscaped isHeaderChar text }

def quoted (text : QuotedText) : Str := '"' :: text.val ++ ['"']

end SipGrammar

open SipGrammar

structure SipUri where
  scheme : Scheme
  userinfo : Option (User × Option Password)
  host : Host
  port : Option Port
  parameters : List (ParameterText × Option ParameterText)
  headers : List (HeaderName × HeaderValue)

namespace SipUri

def user (uri : SipUri) : Option Str := uri.userinfo.map fun userinfo => userinfo.1.val

def passwordText : Option Password → Str
  | none => []
  | some password => ':' :: password.val

def userinfoText (uri : SipUri) : Str :=
  match uri.userinfo with
  | none => []
  | some (user, password) => user.val ++ passwordText password ++ ['@']

def parameterText (parameter : ParameterText × Option ParameterText) : Str :=
  ';' :: parameter.1.val ++ (parameter.2.elim [] fun value => '=' :: value.val)

def headersText : List (HeaderName × HeaderValue) → Str
  | [] => []
  | headers => '?' :: ['&'].intercalate (headers.map fun header => header.1.val ++ '=' :: header.2.val)

/-- All that follows the user part and the password. -/
def rest (uri : SipUri) : Str :=
  uri.host.val ++ (uri.port.elim [] fun port => ':' :: port.val) ++
    uri.parameters.flatMap parameterText ++ headersText uri.headers

/-- Outside angle brackets a URI has no comma, question mark or semicolon. -/
def Plain (uri : SipUri) : Prop :=
  ∀ c ∈ uri.userinfoText ++ uri.rest, c ≠ ',' ∧ c ≠ '?' ∧ c ≠ ';'

end SipUri

inductive DisplayName where
  | tokens (words : List (Token × Blank))
  | quoted (text : QuotedText) (blank : Blank)

def DisplayName.text : DisplayName → Str
  | .tokens words => words.flatMap fun word => word.1.val ++ word.2.val
  | .quoted text blank => SipGrammar.quoted text ++ blank.val

inductive FromAddress where
  | named (display : Option DisplayName) (uri : SipUri)
  | bare (uri : SipUri) (plain : uri.Plain)

namespace FromAddress

def uri : FromAddress → SipUri
  | .named _ uri => uri
  | .bare uri _ => uri

def opening : FromAddress → Str
  | .named display _ => display.elim [] DisplayName.text ++ ['<']
  | .bare _ _ => []

def closing : FromAddress → Str
  | .named _ _ => ['>']
  | .bare _ _ => []

end FromAddress

inductive ParameterValue where
  | token (value : Token)
  | host (value : Host)
  | quoted (value : QuotedText)

def ParameterValue.text : ParameterValue → Str
  | .token value => value.val
  | .host value => value.val
  | .quoted value => SipGrammar.quoted value

/-- A parameter such as the tag. -/
structure FromParameter where
  before : Blank
  after : Blank
  name : Token
  value : Option (Blank × Blank × ParameterValue)

def FromParameter.text (parameter : FromParameter) : Str :=
  parameter.before.val ++ ';' :: parameter.after.val ++ parameter.name.val ++
    parameter.value.elim [] fun value => value.1.val ++ '=' :: value.2.1.val ++ value.2.2.text

structure FromValue where
  address : FromAddress
  parameters : List FromParameter

namespace FromValue

def uri (value : FromValue) : SipUri := value.address.uri

/-- All that follows the URI's user part and password. -/
def ending (value : FromValue) : Str :=
  value.uri.rest ++ value.address.closing ++ value.parameters.flatMap FromParameter.text

def text (value : FromValue) : Str :=
  value.address.opening ++ value.uri.scheme.val ++ ':' :: (value.uri.userinfoText ++ value.ending)

/-- The device label is the user part of the URI, and there is none where it has none. -/
def LabelsUser (value : FromValue) : Prop :=
  ∀ headers : OrderedDict Str Str, headers.get? "from".toList = some value.text →
    SipParser.extractDeviceLabel headers = value.uri.user

/-- The URI begins with the first `sip:` of the value. -/
def Leads (value : FromValue) : Prop :=
  value.uri.scheme.val = "sip".toList ∧
    Text.contains "sip:".toList value.address.opening = false

end FromValue

/-- What follows the first `sip:` of a text, up to the next `@` or `sip:` and without angle
brackets, is this user part. -/
def Spells (text user : Str) : Prop :=
  ∃ before shown after, text = before ++ "sip:".toList ++ (shown ++ after) ∧
    Text.contains "sip:".toList before = false ∧ Text.contains "sip:".toList shown = false ∧
    '@' ∉ shown ∧ (after = [] ∨ ['@'] <+: after ∨ "sip:".toList <+: after) ∧
    (shown.filter fun c => c ≠ '<' ∧ c ≠ '>') = user

/-- There is no user part and no `sip:`; or the user part follows the first `sip:`, with no
password, or else is spelled there. -/
def FromValue.Readable (value : FromValue) : Prop :=
  match value.uri.userinfo with
  | none => Text.contains "sip:".toList value.text = false
  | some (user, password) =>
      (value.Leads ∧ password = none) ∨ (¬ value.Leads ∧ Spells value.text user.val)

namespace SipParser

theorem extractDeviceLabel_eq {headers : OrderedDict Str Str} {text : Str}
    (given : headers.get? "from".toList = some text) (nonblank : text ≠ []) :
    extractDeviceLabel headers = (Framing.find? "sip:".toList text).map fun offset =>
      (Text.upTo ['@'] (Text.upTo "sip:".toList (text.drop (offset + 4)))).filter
        fun c => c ≠ '<' ∧ c ≠ '>' := by
  have fromHeader : header? headers "from" = some text := by
    rw [header?, given, Option.filter_some, if_pos (decide_eq_true nonblank)]
  rw [extractDeviceLabel, fromHeader]
  simp only [Option.bind_eq_bind, Option.bind_some,
    Text.split_second (show "sip:".toList ≠ [] by decide)]
  rcases Framing.find? "sip:".toList text with _ | offset
  · rfl
  · simp only [Option.map_some, Option.bind_some, Text.split_head (List.cons_ne_nil '@' [])]
    rfl

theorem extractDeviceLabel_eq_none {headers : OrderedDict Str Str} {text : Str}
    (given : headers.get? "from".toList = some text) (nonblank : text ≠ []) :
    extractDeviceLabel headers = none ↔ Text.contains "sip:".toList text = false := by
  rw [extractDeviceLabel_eq given nonblank, Option.map_eq_none_iff, Text.contains,
    Option.isSome_eq_false_iff, Option.isNone_iff_eq_none]

theorem extractDeviceLabel_eq_some {headers : OrderedDict Str Str} {text user : Str}
    (given : headers.get? "from".toList = some text) (nonblank : text ≠ []) :
    extractDeviceLabel headers = some user ↔ Spells text user := by
  have once : 's' ∉ ['i', 'p', ':'] := by decide
  have apart : '@' ∉ 's' :: ['i', 'p', ':'] := by decide
  have behind (before tail : Str) :
      (before ++ "sip:".toList ++ tail).drop (before.length + 4) = tail := by
    rw [List.append_assoc, ← List.drop_drop, List.drop_left]
    rfl
  rw [extractDeviceLabel_eq given nonblank, Option.map_eq_some_iff]
  constructor
  · rintro ⟨offset, found, rfl⟩
    obtain ⟨before, tail, rfl, noSipBefore, rfl⟩ := (Text.find?_eq_some_iff once).mp found
    obtain ⟨after, split, noSip, noAt, stops⟩ := (Text.upTo_upTo_iff once apart).mp
      (rfl : Text.upTo ['@'] (Text.upTo "sip:".toList tail) = _)
    refine ⟨before, _, after, ?_, noSipBefore, noSip, noAt, stops, ?_⟩
    · rw [← split]
      rfl
    · exact congrArg (fun tail => (Text.upTo ['@'] (Text.upTo "sip:".toList tail)).filter
        fun c => c ≠ '<' ∧ c ≠ '>') (behind before tail).symm
  · rintro ⟨before, shown, after, rfl, noSipBefore, noSip, noAt, stops, rfl⟩
    have cut : Text.upTo ['@'] (Text.upTo "sip:".toList (shown ++ after)) = shown :=
      (Text.upTo_upTo_iff once apart).mpr ⟨after, rfl, noSip, noAt, stops⟩
    refine ⟨before.length, Text.find?_of_once once noSipBefore (shown ++ after), ?_⟩
    rw [behind, cut]

end SipParser

namespace SipGrammar

/-- What is neither allowed nor part of an escape is not there. -/
theorem not_mem_of_isEscaped {allowed : Char → Bool} {text : Str}
    (accepted : isEscaped allowed text = true) {c : Char} (refused : allowed c = false)
    (noPercent : c ≠ '%') (noHex : isHexDigit c = false) : c ∉ text := by
  fun_induction isEscaped allowed text with
  | case1 => exact List.not_mem_nil
  | case2 high low rest ih =>
      simp only [Bool.and_eq_true] at accepted
      obtain ⟨⟨highHex, lowHex⟩, later⟩ := accepted
      simp only [List.mem_cons, not_or]
      refine ⟨noPercent, ?_, ?_, ih later⟩
      · rintro rfl
        rw [highHex] at noHex
        cases noHex
      · rintro rfl
        rw [lowHex] at noHex
        cases noHex
  | case3 first rest _ ih =>
      simp only [Bool.and_eq_true] at accepted
      simp only [List.mem_cons, not_or]
      refine ⟨?_, ih accepted.2⟩
      rintro rfl
      rw [accepted.1] at refused
      cases refused

theorem not_mem_user (user : User) {c : Char} (refused : isUserChar c = false)
    (noPercent : c ≠ '%') (noHex : isHexDigit c = false) : c ∉ user.val :=
  not_mem_of_isEscaped user.property.2 refused noPercent noHex

/-- A user part is its own spelling. -/
theorem filter_user (user : User) : (user.val.filter fun c => c ≠ '<' ∧ c ≠ '>') = user.val := by
  rw [List.filter_eq_self]
  intro c member
  have noLeft : c ≠ '<' := by
    rintro rfl
    exact not_mem_user user (by decide) (by decide) (by decide) member
  have noRight : c ≠ '>' := by
    rintro rfl
    exact not_mem_user user (by decide) (by decide) (by decide) member
  exact decide_eq_true ⟨noLeft, noRight⟩

end SipGrammar

namespace FromValue

theorem text_ne_nil (value : FromValue) : value.text ≠ [] := by
  simp [text]

/-- Whether the label is right is told by the text of the value. -/
theorem labelsUser_iff_text (value : FromValue) :
    value.LabelsUser ↔ match value.uri.user with
      | none => Text.contains "sip:".toList value.text = false
      | some user => Spells value.text user := by
  have ofHeaders {headers : OrderedDict Str Str}
      (given : headers.get? "from".toList = some value.text) :
      SipParser.extractDeviceLabel headers = value.uri.user ↔ match value.uri.user with
        | none => Text.contains "sip:".toList value.text = false
        | some user => Spells value.text user := by
    rcases value.uri.user with _ | user
    · exact SipParser.extractDeviceLabel_eq_none given value.text_ne_nil
    · exact SipParser.extractDeviceLabel_eq_some given value.text_ne_nil
  constructor
  · intro labels
    have given : (OrderedDict.empty.set "from".toList value.text).get? "from".toList =
        some value.text := OrderedDict.get?_set_self ..
    exact (ofHeaders given).mp (labels _ given)
  · exact fun right headers given => (ofHeaders given).mpr right

/-- The colon in front of a password is shown with the user part, so the two are not alike. -/
theorem not_spelled_before_colon {user : User} {shown after password : Str}
    (behind : shown ++ after = user.val ++ ':' :: password)
    (stops : after = [] ∨ ['@'] <+: after ∨ "sip:".toList <+: after) :
    (shown.filter fun c => c ≠ '<' ∧ c ≠ '>') ≠ user.val := by
  intro spelled
  have noColon : ':' ∉ user.val := not_mem_user user (by decide) (by decide) (by decide)
  have notStopped : after ≠ ':' :: password := by
    rintro rfl
    rcases stops with none | ⟨_, atSign⟩ | ⟨_, sip⟩
    · cases none
    · cases atSign
    · cases sip
  rcases List.append_eq_append_iff.mp behind with ⟨more, longer, ends⟩ | ⟨more, longer, ends⟩
  · -- what is shown is no longer than the user part, so it is all of it
    have shorter := List.length_filter_le (fun c => decide (c ≠ '<' ∧ c ≠ '>')) shown
    have lengths := congrArg List.length longer
    rw [spelled] at shorter
    rw [List.length_append] at lengths
    have none : more = [] := List.eq_nil_of_length_eq_zero (by omega)
    rw [none] at ends
    exact notStopped ends
  · rcases more with _ | ⟨c, more⟩
    · exact notStopped ends.symm
    · have colon : c = ':' := (List.cons.inj ends).1.symm
      have shownColon : ':' ∈ shown := by
        rw [longer, colon]
        exact List.mem_append_right _ List.mem_cons_self
      refine noColon (spelled ▸ List.mem_filter.mpr ⟨shownColon, ?_⟩)
      decide

/-- Where the URI leads, its user part is what is spelled unless a password follows. -/
theorem Leads.spells_iff {value : FromValue} (leads : value.Leads) {user : User}
    {password : Option Password} (userinfo : value.uri.userinfo = some (user, password)) :
    Spells value.text user.val ↔ password = none := by
  have once : 's' ∉ ['i', 'p', ':'] := by decide
  have text : value.text = value.address.opening ++ "sip:".toList ++
      (user.val ++ (SipUri.passwordText password ++ '@' :: value.ending)) := by
    rw [FromValue.text, leads.1, SipUri.userinfoText, userinfo]
    simp
  constructor
  · rintro ⟨before, shown, after, split, noSipBefore, _, _, stops, spelled⟩
    have whole := split.symm.trans text
    have found := Text.find?_of_once once noSipBefore (shown ++ after)
    have foundLead := Text.find?_of_once once leads.2
      (user.val ++ (SipUri.passwordText password ++ '@' :: value.ending))
    have same : before.length = value.address.opening.length := by
      apply Option.some.inj
      rw [← found, ← foundLead]
      exact congrArg _ whole
    have behind := (List.append_inj whole (by
      rw [List.length_append, same, List.length_append])).2
    rcases password with _ | password
    · rfl
    · exact absurd spelled (not_spelled_before_colon behind stops)
  · rintro rfl
    have noColon : ':' ∉ user.val := not_mem_user user (by decide) (by decide) (by decide)
    have noAt : '@' ∉ user.val := not_mem_user user (by decide) (by decide) (by decide)
    refine ⟨value.address.opening, user.val, '@' :: value.ending, text, leads.2, ?_, noAt,
      Or.inr (Or.inl (List.prefix_append ['@'] _)), filter_user user⟩
    rw [Text.contains_eq_false (by decide)]
    intro offset occurs
    exact noColon (List.mem_of_mem_drop (occurs.subset (by decide)))

theorem labelsUser_iff (value : FromValue) : value.LabelsUser ↔ value.Readable := by
  rw [labelsUser_iff_text, Readable, SipUri.user]
  rcases userinfo : value.uri.userinfo with _ | ⟨user, password⟩
  · rfl
  · by_cases leads : value.Leads
    · simp only [Option.map_some, leads.spells_iff userinfo, leads, true_and, not_true_eq_false,
        false_and, or_false]
    · simp only [Option.map_some, leads, false_and, not_false_eq_true, true_and, false_or]

/-- `<sip:store.local>`, which has no user part. -/
def hostOnly : FromValue where
  address := .named none {
    scheme := ⟨"sip".toList, Or.inl rfl⟩
    userinfo := none
    host := ⟨"store.local".toList, by decide⟩
    port := none
    parameters := []
    headers := [] }
  parameters := []

/-- The host is taken for a device. -/
theorem hostOnly_labelled : ¬ hostOnly.LabelsUser := by
  intro labels
  have label := labels (OrderedDict.empty.set "from".toList "<sip:store.local>".toList)
    (OrderedDict.get?_set_self ..)
  exact absurd label (by decide +kernel)

end FromValue

end SignalForge
