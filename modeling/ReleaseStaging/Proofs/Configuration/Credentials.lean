import Mathlib.Data.List.Forall2
import Mathlib.Data.List.TakeDrop
import ReleaseStaging.Http.Message
import ReleaseStaging.Proofs.Text.Base64
import ReleaseStaging.Proofs.Text.Scanning

/-!
# Credentials that are read back

The header with the credentials holds one byte for each character of the user name, a colon and the
password. A server that reads it splits the text at its first colon. Main statement: it finds the
user name and the password if both are in Latin-1 and the user name has no colon, and no credentials
keep a client from being made.
-/

namespace ReleaseStaging

/-! ## Bytes of characters -/

/-- A character has the byte of its code, or that of a question mark. -/
theorem toNat_latin1Byte (c : Char) :
    (latin1Byte c).toNat = if c.toNat ≤ 0xFF then c.toNat else '?'.toNat := by
  rw [latin1Byte]
  by_cases h : c.toNat < 256
  · rw [if_pos h, if_pos (by omega)]
    exact Nat.mod_eq_of_lt h
  · rw [if_neg h, if_neg (by omega)]
    rfl

/-- The bytes of a text in Latin-1 are those of its characters. -/
theorem octets_latin1Byte {text : List Char} (h : ∀ c ∈ text, c.toNat ≤ 0xFF) :
    Http.octets (text.map latin1Byte) = text := by
  rw [Http.octets, List.map_map]
  refine (List.map_congr_left fun c hc => ?_).trans (List.map_id text)
  rw [Function.comp_apply, toNat_latin1Byte, if_pos (h c hc)]
  exact Char.ofNat_toNat c

/-- A text is split at its first colon. -/
theorem span_colon {before : List Char} (h : ':' ∉ before) (after : List Char) :
    (before ++ ':' :: after).span (· != ':') = (before, ':' :: after) := by
  have hbefore : ∀ c ∈ before, (c != ':') = true := by
    intro c hc
    rw [bne_iff_ne]
    rintro rfl
    exact h hc
  have hcolon : Text.Stops (· != ':') (':' :: after) := Text.stops_cons.mpr rfl
  rw [List.span_eq_takeWhile_dropWhile, Text.takeWhile_append hbefore hcolon,
    Text.dropWhile_append hbefore hcolon]

/-! ## The header -/

/-- The characters of the header. -/
theorem toList_basicAuthorization (username password : String) :
    (basicAuthorization username password).toList = "Basic".toList ++ ' ' ::
      Text.Base64.encode ((username ++ ":" ++ password).toList.map latin1Byte) := by
  simp only [basicAuthorization, String.toList_append, String.toList_ofList]
  rfl

/-- Every character of the header but one can be seen. -/
theorem isVisible_basicAuthorization (username password : String) :
    (basicAuthorization username password).toList.count ' ' = 1 ∧
      ∀ c ∈ (basicAuthorization username password).toList, c = ' ' ∨ Text.isVisible c = true := by
  have hencoded : ' ' ∉ Text.Base64.encode
      ((username ++ ":" ++ password).toList.map latin1Byte) :=
    fun hmem => absurd (Text.Base64.isVisible_of_mem_encode hmem) (by decide)
  rw [toList_basicAuthorization]
  constructor
  · rw [List.count_append, List.count_cons_self, List.count_eq_zero.mpr hencoded]
    rfl
  · intro c hc
    rcases List.mem_append.mp hc with hc | hc
    · have hword : ∀ c ∈ "Basic".toList, c = ' ' ∨ Text.isVisible c = true := by decide
      exact hword c hc
    · exact (List.mem_cons.mp hc).imp_right Text.Base64.isVisible_of_mem_encode

namespace Configuration

/-- What can be seen can stand in a header. -/
theorem isHeaderChar_of_isVisible {c : Char} (h : Text.isVisible c = true) :
    isHeaderChar c = true := by
  simp only [Text.isVisible, Bool.and_eq_true, decide_eq_true_eq] at h
  have hlow : 32 ≤ c.toNat := by omega
  have hne : c.toNat ≠ 127 := by omega
  simp [isHeaderChar, hlow, hne]

/-- The header with the credentials can always be sent. -/
theorem all_isHeaderChar_basicAuthorization (username password : String) :
    (basicAuthorization username password).toList.all isHeaderChar = true := by
  rw [List.all_eq_true]
  intro c hc
  rcases (isVisible_basicAuthorization username password).2 c hc with rfl | hvisible
  · decide
  · exact isHeaderChar_of_isVisible hvisible

variable {configuration : Configuration}

theorem requireHeader_basicAuthorization (username password reason : String) :
    requireHeader (basicAuthorization username password) reason = .ok () :=
  if_pos (all_isHeaderChar_basicAuthorization username password)

/-- With a good time limit and a good name of the client there is a sender. -/
theorem sender_eq_ok {limit : Option Nat} (hlimit : configuration.timeoutNanos = .ok limit)
    (hname : configuration.userAgent.toList.all isHeaderChar = true) :
    configuration.sender = .ok {
      authorization := basicAuthorization configuration.username configuration.password
      userAgent := configuration.userAgent } := by
  simp only [sender, hlimit, requireHeader_basicAuthorization]
  rw [requireHeader, if_pos hname]
  rfl

/-- A time limit that is refused is named. -/
theorem reason_of_timeoutNanos_eq_error {failure : Failure}
    (h : configuration.timeoutNanos = .error failure) :
    ∃ seconds : Binary64,
      failure = .configuration ("invalid request timeout " ++ seconds.text) := by
  rw [timeoutNanos] at h
  split at h
  · cases h
  · next seconds _ =>
    split at h
    · cases h
    · exact ⟨seconds, (Except.error.inj h).symm⟩

/-- Only the time limit and the name of the client keep a client from being made. -/
theorem reason_of_sender_eq_error {failure : Failure} (h : configuration.sender = .error failure) :
    (∃ seconds : Binary64,
        failure = .configuration ("invalid request timeout " ++ seconds.text)) ∨
      failure = .configuration "cannot build HTTP client: builder error" := by
  cases hlimit : configuration.timeoutNanos with
  | error reason =>
    left
    rw [sender, hlimit] at h
    obtain rfl : reason = failure := Except.error.inj h
    exact reason_of_timeoutNanos_eq_error hlimit
  | ok limit =>
    right
    by_cases hname : configuration.userAgent.toList.all isHeaderChar = true
    · rw [sender_eq_ok hlimit hname] at h
      cases h
    · simp only [sender, hlimit, requireHeader, if_neg hname] at h
      exact (Except.error.inj h).symm

/-- No credentials are refused. -/
theorem sender_ne_invalidCredentials (detail : String) :
    configuration.sender ≠ .error (.configuration ("invalid credentials: " ++ detail)) := by
  intro h
  rcases reason_of_sender_eq_error h with ⟨seconds, hreason⟩ | hreason
  · have htext := congrArg String.toList (Failure.configuration.inj hreason)
    simp at htext
  · have htext := congrArg String.toList (Failure.configuration.inj hreason)
    simp at htext

end Configuration

/-- Whatever the user name and the password are, what follows the word in the header is read as one
byte for each character of both with a colon between them: its Latin-1 code, or a question mark. If
both are in Latin-1 and the user name has no colon, a server that splits the text at its first colon
finds them. All characters of the header but one space can be seen, so credentials are never the
reason why there is no sender. -/
theorem credentials_read_back (username password : String) :
    (∃ encoded bytes, basicAuthorization username password = "Basic " ++ String.ofList encoded ∧
      Text.Base64.decode? encoded = some bytes ∧
      List.Forall₂ (fun c byte => byte.toNat = if c.toNat ≤ 0xFF then c.toNat else '?'.toNat)
        (username ++ ":" ++ password).toList bytes ∧
      ((∀ c ∈ username.toList ++ password.toList, c.toNat ≤ 0xFF) → ':' ∉ username.toList →
        (Http.octets bytes).span (· != ':') = (username.toList, ':' :: password.toList))) ∧
    (basicAuthorization username password).toList.count ' ' = 1 ∧
    (∀ c ∈ (basicAuthorization username password).toList, c = ' ' ∨ Text.isVisible c = true) ∧
    (∀ (configuration : Configuration) (limit : Option Nat),
      configuration.timeoutNanos = .ok limit →
        configuration.userAgent.toList.all Configuration.isHeaderChar = true →
          (configuration.withCredentials username password).sender =
            .ok ⟨basicAuthorization username password, configuration.userAgent⟩) ∧
    ∀ (configuration : Configuration) (detail : String),
      (configuration.withCredentials username password).sender ≠
        .error (.configuration ("invalid credentials: " ++ detail)) := by
  have htext : (username ++ ":" ++ password).toList =
      username.toList ++ ':' :: password.toList := by
    simp only [String.toList_append, List.append_assoc]
    rfl
  obtain ⟨hspace, hvisible⟩ := isVisible_basicAuthorization username password
  refine ⟨⟨Text.Base64.encode ((username ++ ":" ++ password).toList.map latin1Byte),
      (username ++ ":" ++ password).toList.map latin1Byte, rfl, Text.Base64.decode?_encode _,
      ?_, ?_⟩, hspace, hvisible, ?_, ?_⟩
  · rw [List.forall₂_map_right_iff, List.forall₂_same]
    exact fun c _ => toNat_latin1Byte c
  · intro hlatin hcolon
    have hall : ∀ c ∈ username.toList ++ ':' :: password.toList, c.toNat ≤ 0xFF := by
      intro c hc
      rcases List.mem_append.mp hc with hc | hc
      · exact hlatin c (List.mem_append_left _ hc)
      · rcases List.mem_cons.mp hc with rfl | hc
        · decide
        · exact hlatin c (List.mem_append_right _ hc)
    rw [htext, octets_latin1Byte hall, span_colon hcolon]
  · intro configuration limit hlimit hname
    exact Configuration.sender_eq_ok hlimit hname
  · intro configuration detail
    exact Configuration.sender_ne_invalidCredentials detail

/-- A password in Latin-1 may itself hold a colon. -/
theorem credentials_read_back_colon :
    (∃ encoded bytes, basicAuthorization "user" "né:e" = "Basic " ++ String.ofList encoded ∧
      Text.Base64.decode? encoded = some bytes ∧
      (Http.octets bytes).span (· != ':') = ("user".toList, ':' :: "né:e".toList)) ∧
    (({ baseUrl := "http://localhost/" } : Configuration).withCredentials "user" "né:e").sender =
      .ok ⟨basicAuthorization "user" "né:e", defaultUserAgent⟩ := by
  obtain ⟨⟨encoded, bytes, hheader, hread, -, hsplit⟩, -, -, hsender, -⟩ :=
    credentials_read_back "user" "né:e"
  exact ⟨⟨encoded, bytes, hheader, hread, hsplit (by decide) (by decide)⟩,
    hsender { baseUrl := "http://localhost/" } none rfl (by decide)⟩

end ReleaseStaging
