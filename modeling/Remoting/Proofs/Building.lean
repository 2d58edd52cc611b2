import Remoting.Config.Builder

/-!
# What a builder builds

A builder has slots, and each of its calls writes to one of them: a handler and fixed credentials to
the same, both kinds of runtimes to the same, and every option to its own. `Writes.after` is the
last write to each slot, starting from what settings have written. The main statement is
`build_last_writes`: these last writes alone decide what is built, or why nothing is.
-/

namespace Remoting.Builder

/-- What the calls of a builder write to. -/
inductive Slot where
  | protocol
  | host
  | port
  | connectionTimeout
  | completionTimeout
  | bindAddress
  | endpointName
  | callbackHandler
  | saslOption (key : String)
  | security
  | executor
  | leakReporter
  deriving DecidableEq

/-- What can be written to a slot. -/
def Slot.Value : Slot → Type
  | .protocol => Protocol
  | .port => UInt16
  | .connectionTimeout | .completionTimeout => Duration
  | .host | .bindAddress | .endpointName | .saslOption _ | .security => String
  | .callbackHandler => Credentials
  | .executor => Executor
  | .leakReporter => LeakReporter

/-- What was written to each slot, if anything was. -/
abbrev Writes : Type := (slot : Slot) → Option slot.Value

/-- What a call writes to a slot, if it is the slot of the call. -/
def Call.writes? : Call → Writes
  | .protocol value, .protocol => some value
  | .host value, .host => some value
  | .port value, .port => some value
  | .connectionTimeout value, .connectionTimeout => some value
  | .completionTimeout value, .completionTimeout => some value
  | .bindAddress value, .bindAddress => some value
  | .endpointName value, .endpointName => some value
  | .callbackHandler value, .callbackHandler => some value
  | .credentials value, .callbackHandler => some value
  | .saslOption name value, .saslOption key => if name = key then some value else none
  | .security value, .security => some value
  | .externalExecutor runtime, .executor => some (.external runtime)
  | .dedicatedExecutor threads, .executor => some (.dedicated (max threads 1))
  | .leakReporter value, .leakReporter => some value
  | _, _ => none

/-- The last write of some calls to each slot. -/
def lastWrites (calls : List Call) : Writes :=
  fun slot => calls.reverse.findSome? fun call => call.writes? slot

namespace Writes

/-- What was written to each slot once some calls were made. -/
def after (writes : Writes) (calls : List Call) : Writes :=
  fun slot => (lastWrites calls slot).or (writes slot)

def host (writes : Writes) : String := Option.getD (writes .host) "localhost"

def protocol (writes : Writes) : Protocol := Option.getD (writes .protocol) .default

def completionTimeout (writes : Writes) : Duration :=
  Option.getD (writes .completionTimeout) (.ofMillis 1000)

def endpointName (writes : Writes) : String :=
  Option.getD (writes .endpointName) "management-client"

/-- Why nothing is built, if nothing is: the first of three reasons that applies. -/
def refusal? (writes : Writes) : Option Error :=
  if writes.host.toList.all Text.isBlankChar then
    some (.configuration "Host must not be empty")
  else if writes.completionTimeout = ⟨0, 0⟩ then
    some (.configuration "Completion timeout must be positive")
  else if writes.endpointName = "" then
    some (.configuration "Endpoint name must not be empty")
  else none

/-- What is built, where the options are known. The port follows the protocol if none was
written. -/
def config (writes : Writes) (options : Options) : Config where
  protocol := writes.protocol
  host := writes.host
  port := Option.getD (writes .port) writes.protocol.defaultPort
  connectionTimeout := Option.getD (writes .connectionTimeout) ⟨5, 0⟩
  completionTimeout := writes.completionTimeout
  bindAddress := writes .bindAddress
  endpointName := writes.endpointName
  credentials := writes .callbackHandler
  saslOptions := options
  security := writes .security
  executor := Option.getD (writes .executor) .caller
  leakReporter := Option.getD (writes .leakReporter) .log

end Writes

variable {builder : Builder} {writes : Writes} {calls : List Call} {call : Call} {slot : Slot}

theorem lastWrites_nil (slot : Slot) : lastWrites [] slot = none := rfl

theorem lastWrites_append (first second : List Call) (slot : Slot) :
    lastWrites (first ++ second) slot = (lastWrites second slot).or (lastWrites first slot) := by
  simp [lastWrites, List.reverse_append, List.findSome?_append]

theorem lastWrites_singleton (call : Call) (slot : Slot) :
    lastWrites [call] slot = call.writes? slot := by
  simp [lastWrites]

theorem Writes.after_append (writes : Writes) (first second : List Call) :
    writes.after (first ++ second) = (writes.after first).after second := by
  funext slot
  simp only [Writes.after, lastWrites_append, Option.or_assoc]

/-! ## Builders -/

/-- A builder holds what was written, and its defaults where nothing was. -/
structure Holds (builder : Builder) (writes : Writes) : Prop where
  protocol : builder.protocol = writes.protocol
  host : builder.host = writes.host
  port : builder.port = writes .port
  connectionTimeout : builder.connectionTimeout = Option.getD (writes .connectionTimeout) ⟨5, 0⟩
  completionTimeout : builder.completionTimeout = writes.completionTimeout
  bindAddress : builder.bindAddress = writes .bindAddress
  endpointName : builder.endpointName = writes.endpointName
  credentials : builder.credentials = writes .callbackHandler
  saslOptions : ∀ key, builder.saslOptions.get? key = writes (.saslOption key)
  security : builder.security = writes .security
  executor : builder.executor = Option.getD (writes .executor) .caller
  leakReporter : builder.leakReporter = Option.getD (writes .leakReporter) .log

theorem holds_default : Builder.default.Holds fun _ => none where
  protocol := rfl
  host := rfl
  port := rfl
  connectionTimeout := rfl
  completionTimeout := rfl
  bindAddress := rfl
  endpointName := rfl
  credentials := rfl
  saslOptions _ := rfl
  security := rfl
  executor := rfl
  leakReporter := rfl

/-- A call changes the slot that it writes to and leaves the other ones alone. -/
theorem Holds.apply (h : builder.Holds writes) (call : Call) :
    (builder.apply call).Holds (writes.after [call]) := by
  have hafter : writes.after [call] = fun slot => (call.writes? slot).or (writes slot) :=
    funext fun slot => by rw [Writes.after, lastWrites_singleton]
  rw [hafter]
  cases call with
  | protocol value => exact { h with protocol := rfl }
  | host value => exact { h with host := rfl }
  | port value => exact { h with port := rfl }
  | connectionTimeout value => exact { h with connectionTimeout := rfl }
  | completionTimeout value => exact { h with completionTimeout := rfl }
  | bindAddress value => exact { h with bindAddress := rfl }
  | endpointName value => exact { h with endpointName := rfl }
  | callbackHandler value => exact { h with credentials := rfl }
  | credentials value => exact { h with credentials := rfl }
  | saslOption name value =>
      refine { h with saslOptions := fun key => ?_ }
      show (builder.saslOptions.insert name value).get? key =
        Option.or (if name = key then some value else none) (writes (.saslOption key))
      rw [Options.get?_insert, h.saslOptions]
      by_cases hname : name = key
      · simp only [hname, if_true]
        rfl
      · simp only [hname, if_false]
        rfl
  | security value => exact { h with security := rfl }
  | externalExecutor runtime => exact { h with executor := rfl }
  | dedicatedExecutor threads => exact { h with executor := rfl }
  | leakReporter value => exact { h with leakReporter := rfl }

theorem Holds.applyAll (h : builder.Holds writes) (calls : List Call) :
    (builder.applyAll calls).Holds (writes.after calls) := by
  induction calls generalizing builder writes with
  | nil =>
      have hafter : writes.after [] = writes := funext fun slot => by
        rw [Writes.after, lastWrites_nil, Option.none_or]
      exact hafter.symm ▸ h
  | cons call calls ih =>
      rw [← List.singleton_append, Writes.after_append]
      exact ih (h.apply call)

/-- A builder builds what was written, or says why it does not. -/
theorem Holds.build_eq (h : builder.Holds writes) :
    builder.build = match writes.refusal? with
      | some e => .error e
      | none => .ok (writes.config builder.saslOptions) := by
  have hblank : Text.isBlank builder.host = writes.host.toList.all Text.isBlankChar := by
    rw [h.host, Text.isBlank]
  have hzero : builder.completionTimeout.isZero = true ↔ writes.completionTimeout = ⟨0, 0⟩ := by
    rw [h.completionTimeout]
    obtain ⟨seconds, nanos⟩ := writes.completionTimeout
    simp [Duration.isZero]
  simp only [build, Writes.refusal?, hblank, hzero, h.endpointName]
  split
  next => rfl
  next =>
    split
    next => rfl
    next =>
      split
      next => rfl
      next =>
        simp only [h.protocol, h.host, h.port, h.connectionTimeout, h.completionTimeout,
          h.bindAddress, h.credentials, h.security, h.executor, h.leakReporter]
        rfl

/-- Builders that hold the same build the same. -/
theorem Holds.build_congr {builder' : Builder} (h : builder.Holds writes)
    (h' : builder'.Holds writes) : builder.build = builder'.build := by
  have hoptions : builder.saslOptions = builder'.saslOptions := Options.eq_of_get? fun key =>
    (h.saslOptions key).trans (h'.saslOptions key).symm
  rw [h.build_eq, h'.build_eq, hoptions]

end Remoting.Builder

/-! ## Settings -/

namespace Remoting.Settings

open Builder

variable {settings : Settings} {builder : Builder} {calls : List Call}

/-- The credentials of settings that have both a user name and a password. -/
def credentials? (settings : Settings) : Option Credentials :=
  match settings.username, settings.password with
  | some username, some password => some ⟨username, password⟩
  | _, _ => none

/-- What settings write to the slots of a builder. -/
def writes (settings : Settings) : Writes
  | .protocol => settings.protocol
  | .host => settings.host
  | .port => settings.port
  | .connectionTimeout => settings.connectionTimeout.map fun ms => .ofMillis ms.toNat
  | .completionTimeout => settings.completionTimeout.map fun ms => .ofMillis ms.toNat
  | .bindAddress => settings.bindAddress
  | .endpointName => settings.endpointName
  | .callbackHandler => settings.credentials?
  | .saslOption key => settings.saslOptions.get? key
  | .security | .executor | .leakReporter => none

theorem lastWrites_map {α : Type} (value : Option α) (call : α → Call) (slot : Slot) :
    lastWrites (value.map call).toList slot =
      value.bind fun value => (call value).writes? slot := by
  cases value with
  | none => rfl
  | some value => exact lastWrites_singleton (call value) slot

/-- Every option has a key of its own, so that the last write is the only one. -/
theorem lastWrites_options (options : Options) (key : String) :
    lastWrites (options.entries.map fun entry => .saslOption entry.1 entry.2) (.saslOption key) =
      options.get? key := by
  obtain ⟨entries, hsorted⟩ := options
  show _ = entries.lookup key
  induction entries with
  | nil => rfl
  | cons first rest ih =>
      obtain ⟨hfirst, hrest⟩ := List.pairwise_cons.1 hsorted
      rw [List.map_cons, ← List.singleton_append, lastWrites_append, lastWrites_singleton, ih hrest,
        List.lookup_cons]
      show (rest.lookup key).or (if first.1 = key then some first.2 else none) = _
      by_cases hkey : first.1 = key
      · rw [if_pos hkey, ← hkey, beq_self_eq_true, Options.lookup_eq_none hfirst, Option.none_or]
      · rw [if_neg hkey, beq_eq_false_iff_ne.2 (Ne.symm hkey), Option.or_none]

theorem lastWrites_entries {slot : Slot} (hslot : ∀ key, slot ≠ .saslOption key)
    (entries : List (String × String)) :
    lastWrites (entries.map fun entry => .saslOption entry.1 entry.2) slot = none := by
  refine List.findSome?_eq_none_iff.2 fun call hcall => ?_
  rw [List.mem_reverse, List.mem_map] at hcall
  obtain ⟨entry, -, rfl⟩ := hcall
  cases slot <;> first | rfl | exact absurd rfl (hslot _)

/-- The calls that settings stand for write what the settings say, the credentials apart. -/
theorem lastWrites_calls (settings : Settings) (slot : Slot) :
    lastWrites settings.calls slot =
      if slot = .callbackHandler then none else settings.writes slot := by
  simp only [calls, lastWrites_append, lastWrites_map]
  cases slot with
  | saslOption key =>
      rw [lastWrites_options]
      simp only [Call.writes?, Option.bind_fun_none, Option.or_none, reduceCtorEq, if_false]
      exact Option.or_none
  | connectionTimeout | completionTimeout =>
      rw [lastWrites_entries fun _ h => by cases h]
      simp only [Call.writes?, Option.bind_fun_none, Option.or_none, Option.none_or, reduceCtorEq,
        if_false]
      exact (Option.map_eq_bind ..).symm
  | protocol | host | port | bindAddress | endpointName =>
      rw [lastWrites_entries fun _ h => by cases h]
      simp only [Call.writes?, Option.bind_fun_none, Option.or_none, Option.none_or, reduceCtorEq,
        if_false]
      exact Option.bind_fun_some _
  | callbackHandler | security | executor | leakReporter =>
      rw [lastWrites_entries fun _ h => by cases h]
      simp [Call.writes?, writes]

/-- Settings that make a builder have both a user name and a password, or neither. -/
theorem exists_toBuilder_iff (settings : Settings) :
    (∃ builder, settings.toBuilder = .ok builder) ↔
      settings.username.isSome = settings.password.isSome := by
  unfold toBuilder
  cases settings.username <;> cases settings.password <;> simp

theorem holds_of_toBuilder (h : settings.toBuilder = .ok builder) :
    builder.Holds settings.writes := by
  have hcalls : (Builder.default.applyAll settings.calls).Holds fun slot =>
      if slot = .callbackHandler then none else settings.writes slot := by
    have hholds := holds_default.applyAll settings.calls
    rwa [show Writes.after (fun _ => none) settings.calls = _ from
      funext fun slot => (Option.or_none ..).trans (lastWrites_calls settings slot)] at hholds
  -- a user name and a password count together only
  unfold toBuilder at h
  cases husername : settings.username with
  | some username =>
      cases hpassword : settings.password with
      | none => simp [husername, hpassword] at h
      | some password =>
          simp only [husername, hpassword] at h
          obtain rfl := Except.ok.inj h
          have hboth := hcalls.apply (.credentials ⟨username, password⟩)
          rwa [show Writes.after _ _ = settings.writes from funext fun slot => ?_] at hboth
          rw [Writes.after, lastWrites_singleton]
          cases slot with
          | callbackHandler =>
              show some _ = settings.credentials?
              simp only [credentials?, husername, hpassword]
          | _ => rfl
  | none =>
      cases hpassword : settings.password with
      | some password => simp [husername, hpassword] at h
      | none =>
          simp only [husername, hpassword] at h
          obtain rfl := Except.ok.inj h
          rwa [show (fun slot => if slot = .callbackHandler then none else settings.writes slot) =
            settings.writes from funext fun slot => ?_] at hcalls
          cases slot with
          | callbackHandler =>
              show none = settings.credentials?
              simp only [credentials?, husername]
          | _ => rfl

/-- What is built, and why nothing is if nothing is, is decided by the last write to each slot,
where the settings that a builder comes from count as writes before all calls; settings that say
nothing make the default builder. So whatever has the same last writes builds the same. -/
theorem build_last_writes (settings : Settings) (calls : List Call) :
    Settings.empty.toBuilder = .ok .default ∧ (∀ slot, Settings.empty.writes slot = none) ∧
    ((∃ builder, settings.toBuilder = .ok builder) ↔
      settings.username.isSome = settings.password.isSome) ∧
    ∀ builder, settings.toBuilder = .ok builder →
      (∃ options : Options,
        (∀ key, options.get? key = settings.writes.after calls (.saslOption key)) ∧
        (builder.applyAll calls).build = match (settings.writes.after calls).refusal? with
          | some e => .error e
          | none => .ok ((settings.writes.after calls).config options)) ∧
      ∀ (settings' : Settings) (calls' : List Call) (builder' : Builder),
        settings'.toBuilder = .ok builder' → (∀ slot,
          settings'.writes.after calls' slot = settings.writes.after calls slot) →
            (builder'.applyAll calls').build = (builder.applyAll calls).build := by
  refine ⟨rfl, fun slot => by cases slot <;> rfl, exists_toBuilder_iff settings,
    fun builder hbuilder => ?_⟩
  have hholds := (holds_of_toBuilder hbuilder).applyAll calls
  refine ⟨⟨_, hholds.saslOptions, hholds.build_eq⟩,
    fun settings' calls' builder' hbuilder' hsame => ?_⟩
  have hholds' := (holds_of_toBuilder hbuilder').applyAll calls'
  rw [show settings'.writes.after calls' = _ from funext hsame] at hholds'
  exact hholds'.build_congr hholds

/-- Settings with credentials and an option. -/
def withCredentials : Settings :=
  { Settings.empty with
    host := some "db1"
    username := some "admin"
    password := some "secret"
    saslOptions := Options.empty.insert "POLICY" "a" }

/-- Calls that cancel each other, with the protocol last. -/
def overlapping : List Call :=
  [.externalExecutor "shared", .saslOption "POLICY" "b", .dedicatedExecutor 0, .host " ",
    .saslOption "POLICY" "c", .host "db2", .protocol .remoteHttps]

/-- Their last writes in another order. -/
def reordered : List Call :=
  [.protocol .remoteHttps, .host "db2", .dedicatedExecutor 1, .saslOption "POLICY" "c"]

theorem build_last_writes_of_overlapping :
    withCredentials.toBuilder = .ok (withCredentials.toBuilder.toOption.get (by decide +kernel)) ∧
      (∀ slot, withCredentials.writes.after reordered slot =
        withCredentials.writes.after overlapping slot) ∧
      ∃ builder, withCredentials.toBuilder = .ok builder ∧
        (∃ options : Options, options.get? "POLICY" = some "c" ∧
          (builder.applyAll overlapping).build = .ok {
            protocol := .remoteHttps, host := "db2", port := 9993, connectionTimeout := ⟨5, 0⟩
            completionTimeout := ⟨1, 0⟩, bindAddress := none, endpointName := "management-client"
            credentials := some ⟨"admin", "secret"⟩, saslOptions := options, security := none
            executor := .dedicated 1, leakReporter := .log }) ∧
        (builder.applyAll reordered).build = (builder.applyAll overlapping).build := by
  have hbuilder : withCredentials.toBuilder =
      .ok (withCredentials.toBuilder.toOption.get (by decide +kernel)) := rfl
  have hsame : ∀ slot, withCredentials.writes.after reordered slot =
      withCredentials.writes.after overlapping slot := by
    intro slot
    cases slot with
    | saslOption key =>
        simp only [Writes.after, lastWrites, reordered, overlapping, List.reverse_cons,
          List.reverse_nil, List.nil_append, List.cons_append, List.findSome?_cons, Call.writes?]
        by_cases hkey : "POLICY" = key <;> simp [hkey]
    | _ => rfl
  obtain ⟨-, -, -, hbuilds⟩ := build_last_writes withCredentials overlapping
  obtain ⟨⟨options, hoptions, hbuild⟩, hcongr⟩ := hbuilds _ hbuilder
  exact ⟨hbuilder, hsame, _, hbuilder, ⟨options, hoptions "POLICY", hbuild⟩,
    hcongr withCredentials reordered _ hbuilder hsame⟩

end Remoting.Settings
