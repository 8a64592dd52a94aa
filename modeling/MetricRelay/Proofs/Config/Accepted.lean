import Mathlib.Data.List.Basic
import Mathlib.Tactic.Tauto
import MetricRelay.Config.Basic

namespace MetricRelay

theorem SenderConfig.validate_eq_ok_iff {c : SenderConfig} :
    c.validate = .ok () ↔ c.checkPeriod ≠ 0 ∧ c.maxPending ≠ 0 := by
  unfold validate
  split_ifs with period pending
  · simp [period]
  · simp [pending]
  · simp [period, pending]

theorem Buffer.isOk_create_iff {capacity : Nat} {policy : OverflowPolicy} :
    (create capacity policy).isOk = true ↔ capacity ≠ 0 ∧ capacity ≤ maxCapacity := by
  unfold create
  split_ifs with outside
  · simp only [Except.isOk, Except.toBool, Bool.false_eq_true, false_iff]
    omega
  · simp only [Except.isOk, Except.toBool, true_iff]
    omega

def Url.IsHttp (u : Url) : Prop :=
  String.ofList u.scheme = "http" ∨ String.ofList u.scheme = "https"

instance (u : Url) : Decidable u.IsHttp := inferInstanceAs (Decidable (_ ∨ _))

namespace Http.Client

variable {config : Http.Config} {u : Url}

theorem new_of_isHttp (parsed : Url.parse config.endpoint = .ok u) (spoken : u.IsHttp) :
    ∃ client, new config = .ok client := by
  have passes :
      (String.ofList u.scheme != "http" && String.ofList u.scheme != "https") = false := by
    obtain http | https := spoken
    · rw [http]
      rfl
    · rw [https]
      rfl
  simp only [new, parsed, passes]
  exact ⟨_, rfl⟩

theorem new_of_not_isHttp (parsed : Url.parse config.endpoint = .ok u) (unspoken : ¬u.IsHttp) :
    new config = .error
      (.invalidConfiguration s!"Unsupported URL scheme: {String.ofList u.scheme}") := by
  have stops : (String.ofList u.scheme != "http" && String.ofList u.scheme != "https") = true := by
    simpa [Url.IsHttp] using unspoken
  simp only [new, parsed, stops]
  rfl

end Http.Client

namespace Config

variable {c : Config} {d : Disk}

/-- What the check looks at. -/
@[mk_iff sound_iff]
structure Sound (c : Config) (d : Disk) : Prop where
  host : Text.isBlank c.host = false
  port : c.port ≠ 0
  sender : c.sender.validate = .ok ()
  buffer : (Buffer.create c.sender.capacity c.sender.policy).isOk = true
  timeouts : c.connectTimeout ≠ 0 ∧ c.writeTimeout ≠ 0 ∧ c.httpTimeout ≠ 0
  batch : c.batchSize ≠ 0
  endpoint : c.viaHttp = true → ∃ url, Url.parse c.httpEndpoint = .ok url
  parent : ∀ folder, c.spoolParent? = some folder → d.contains folder = true

theorem require_bind_eq_ok {condition : Bool} {reason : String}
    {next : Unit → Except ConfigError Unit} :
    (require condition reason >>= next) = .ok () ↔ condition = true ∧ next () = .ok () := by
  cases condition <;> simp [require, bind, Except.bind]

theorem require_eq_ok {condition : Bool} {reason : String} :
    require condition reason = .ok () ↔ condition = true := by
  cases condition <;> simp [require]

theorem parent_eq_ok_iff :
    (match c.spoolParent? with
      | none => pure ()
      | some parent =>
        require (d.contains parent)
          s!"Spool parent directory does not exist: {Text.decodeLossy parent}") =
        Except.ok () ↔
      ∀ folder, c.spoolParent? = some folder → d.contains folder = true := by
  cases c.spoolParent? with
  | none => simp [pure, Except.pure]
  | some parent => simp [require_eq_ok]

theorem validate_eq_ok_iff : c.validate d = .ok () ↔ c.Sound d := by
  simp only [validate, require_bind_eq_ok, sound_iff, SenderConfig.validate_eq_ok_iff,
    Buffer.isOk_create_iff, sender, ← parent_eq_ok_iff, Bool.not_eq_true', bne_iff_ne,
    Bool.and_eq_true, decide_eq_true_eq]
  cases c.viaHttp with
  | false =>
    simp only [Bool.false_eq_true, if_false, false_implies, true_and]
    tauto
  | true =>
    cases Url.parse c.httpEndpoint with
    | error e =>
      simp [throw, throwThe, MonadExceptOf.throw, bind, Except.bind]
    | ok url =>
      simp only [if_true, Except.ok.injEq, exists_eq', true_implies]
      tauto

/-- The sender and its buffer take a configuration that has passed its check, and the endpoint is a
URL. The client is made exactly if the scheme of that URL is one that it speaks, and the only error
that it gives is that it does not. -/
theorem accepted_of_validate (passed : c.validate d = .ok ()) :
    c.sender.validate = .ok () ∧
      (Buffer.create c.sender.capacity c.sender.policy).isOk = true ∧
      (c.viaHttp = true → ∃ url, Url.parse c.http.endpoint = .ok url ∧
        ((∃ client, Http.Client.new c.http = .ok client) ↔ url.IsHttp) ∧
        ∀ e, Http.Client.new c.http = .error e ↔ ¬url.IsHttp ∧
          e = .invalidConfiguration s!"Unsupported URL scheme: {String.ofList url.scheme}") := by
  have sound := validate_eq_ok_iff.1 passed
  refine ⟨sound.sender, sound.buffer, fun via => ?_⟩
  obtain ⟨url, parsed⟩ := sound.endpoint via
  refine ⟨url, parsed, ?_⟩
  by_cases spoken : url.IsHttp
  · have made : ∃ client, Http.Client.new c.http = .ok client :=
      Http.Client.new_of_isHttp parsed spoken
    obtain ⟨client, made⟩ := made
    simp [made, spoken]
  · have refused : Http.Client.new c.http = .error
        (.invalidConfiguration s!"Unsupported URL scheme: {String.ofList url.scheme}") :=
      Http.Client.new_of_not_isHttp parsed spoken
    simp [refused, spoken, eq_comm]

theorem accepted_of_validate_https :
    let c : Config :=
      { Config.default with
        bufferCapacity := 10000000, viaHttp := true, httpEndpoint := "HTTPS://[::1]:8443/a/../b" }
    let d : Disk := .build [] [] []
    c.validate d = .ok () ∧ c.sender.validate = .ok () ∧
      (Buffer.create 10000000 .dropOldest).isOk = true ∧
      ∃ client, Http.Client.new c.http = .ok client := by
  intro c d
  have passed : c.validate d = .ok () := by decide +kernel
  obtain ⟨sender, buffer, client⟩ := accepted_of_validate passed
  obtain ⟨url, parsed, made, -⟩ := client rfl
  have spoken : url.IsHttp := by
    have scheme : (Url.parse c.http.endpoint).toOption.map (·.scheme) = some "https".toList := by
      decide +kernel
    rw [parsed] at scheme
    refine .inr ?_
    rw [show url.scheme = "https".toList from Option.some.inj scheme, String.ofList_toList]
  exact ⟨passed, sender, buffer, made.2 spoken⟩

/-- A URL of another scheme passes the check, and the client does not take it. -/
theorem not_new_of_validate :
    ¬∀ (c : Config) (d : Disk), c.validate d = .ok () → c.viaHttp = true →
      ∀ reason, Http.Client.new c.http ≠ .error (.invalidConfiguration reason) := by
  intro accepted
  let c : Config := { Config.default with viaHttp := true, httpEndpoint := "ftp://h" }
  have refused : Http.Client.new c.http =
      .error (.invalidConfiguration "Unsupported URL scheme: ftp") := by decide +kernel
  exact accepted c (.build [] [] []) (by decide +kernel) rfl _ refused

end Config

end MetricRelay
