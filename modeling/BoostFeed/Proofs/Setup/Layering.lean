import BoostFeed.Setup.Load

/-! Layers of options, one lookup for every option. The uppermost layer that sets an option decides over it, and a
setup is made of the deciding values, each for its own setting; no other value matters. -/

namespace BoostFeed

open Address

/-- What an option is set to. -/
abbrev OptionKey.Kind : OptionKey → Type
  | .baseUrl | .wsUrl | .view | .authToken | .logDir | .logLevel | .configPath => String
  | .websocket | .playback | .audio | .showReceivedSats => Bool
  | .minSats => Int64
  | .pollIntervalSecs | .balanceIntervalSecs | .triggerTickMs | .requestTimeoutSecs => UInt64
  | .maxRetries => UInt32

namespace Layer

def get (l : Layer) : (k : OptionKey) → Option k.Kind
  | .baseUrl => l.baseUrl
  | .wsUrl => l.wsUrl
  | .websocket => l.websocket
  | .view => l.view
  | .minSats => l.minSats
  | .playback => l.playback
  | .audio => l.audio
  | .showReceivedSats => l.showReceivedSats
  | .pollIntervalSecs => l.pollIntervalSecs
  | .balanceIntervalSecs => l.balanceIntervalSecs
  | .triggerTickMs => l.triggerTickMs
  | .requestTimeoutSecs => l.requestTimeoutSecs
  | .maxRetries => l.maxRetries
  | .authToken => l.authToken
  | .logDir => l.logDir
  | .logLevel => l.logLevel
  | .configPath => l.configPath

theorem ext_get {l l' : Layer} (h : ∀ k, l.get k = l'.get k) : l = l' := by
  obtain ⟨⟩ := l
  obtain ⟨⟩ := l'
  rw [mk.injEq]
  exact ⟨h .baseUrl, h .wsUrl, h .websocket, h .view, h .minSats, h .playback, h .audio, h .showReceivedSats,
    h .pollIntervalSecs, h .balanceIntervalSecs, h .triggerTickMs, h .requestTimeoutSecs, h .maxRetries, h .authToken,
    h .logDir, h .logLevel, h .configPath⟩

theorem get_merge (lower upper : Layer) (k : OptionKey) :
    (lower.merge upper).get k = (upper.get k).or (lower.get k) := by
  have hor {α : Type} (a b : Option α) : (a <|> b) = a.or b := by cases a <;> rfl
  cases k <;> exact hor _ _

theorem get_unset (k : OptionKey) : ({} : Layer).get k = none := by cases k <;> rfl

theorem merge_assoc (a b c : Layer) : (a.merge b).merge c = a.merge (b.merge c) :=
  ext_get fun k => by simp only [get_merge, Option.or_assoc]

theorem unset_merge (l : Layer) : ({} : Layer).merge l = l :=
  ext_get fun k => by rw [get_merge, get_unset, Option.or_none]

theorem merge_unset (l : Layer) : l.merge {} = l :=
  ext_get fun k => by rw [get_merge, get_unset, Option.none_or]

theorem merge_self (l : Layer) : l.merge l = l :=
  ext_get fun k => by rw [get_merge, Option.or_self]

/-- The built-in layer leaves three options open. -/
theorem get_merge_builtIn_isSome (l : Layer) (k : OptionKey) (h : k ∉ [.wsUrl, .authToken, .configPath]) :
    ((builtIn.merge l).get k).isSome := by
  rw [get_merge]
  cases k <;> simp_all [builtIn, get]

end Layer

/-- Values that a setting can be made of. -/
def OptionKey.Usable : (k : OptionKey) → k.Kind → Prop
  | .baseUrl, text | .wsUrl, text => ∃ a, Address.read text = .ok a
  | .view, text => ∃ v, View.parse text = .ok v
  | .pollIntervalSecs, n | .balanceIntervalSecs, n | .triggerTickMs, n | .requestTimeoutSecs, n => n ≠ 0
  | _, _ => True

namespace Setup

/-- Each setting is made of the value of its own option. -/
structure MadeOf (value : (k : OptionKey) → Option k.Kind) (s : Setup) : Prop where
  baseUrl : ∃ text, value .baseUrl = some text ∧ Address.read text = .ok s.baseUrl
  wsUrl : (value .wsUrl = none ∧ s.wsUrl = none) ∨
    ∃ text a, value .wsUrl = some text ∧ Address.read text = .ok a ∧ s.wsUrl = some a
  websocket : value .websocket = some s.websocket
  view : ∃ text, value .view = some text ∧ View.parse text = .ok s.view
  minSats : value .minSats = some s.session.minSats
  playback : value .playback = some s.session.playback
  showReceivedSats : value .showReceivedSats = some s.session.showReceivedSats
  defaultSound : s.session.defaultSound = ({} : Settings).defaultSound
  audio : value .audio = some s.audio
  pollIntervalSecs : value .pollIntervalSecs = some s.pollIntervalSecs ∧ s.pollIntervalSecs ≠ 0
  balanceIntervalSecs : value .balanceIntervalSecs = some s.balanceIntervalSecs ∧ s.balanceIntervalSecs ≠ 0
  triggerTickMs : value .triggerTickMs = some s.triggerTickMs ∧ s.triggerTickMs ≠ 0
  requestTimeoutSecs : value .requestTimeoutSecs = some s.requestTimeoutSecs ∧ s.requestTimeoutSecs ≠ 0
  maxRetries : value .maxRetries = some s.maxRetries
  authToken : ∀ token, s.authToken = some token ↔ value .authToken = some token ∧ token ≠ ""
  logDir : value .logDir = some s.logDir
  logLevel : value .logLevel = some s.logLevel

variable {field text : String}

theorem readAddress_eq_ok_iff {a : Address} : readAddress field text = .ok a ↔ Address.read text = .ok a := by
  unfold readAddress
  cases Address.read text <;> simp

theorem readView_eq_ok_iff {v : View} : readView text = .ok v ↔ View.parse text = .ok v := by
  unfold readView
  cases View.parse text <;> simp

theorem positive_eq_ok_iff {o : Option UInt64} {n : UInt64} : positive field o = .ok n ↔ o = some n ∧ n ≠ 0 := by
  cases o with
  | none => simp [positive]
  | some m =>
    by_cases hm : m = 0
    · simp only [positive, hm, if_true, reduceCtorEq, Option.some.injEq, false_iff]
      rintro ⟨rfl, hn⟩
      exact hn rfl
    · simp only [positive, hm, if_false, Except.ok.injEq, Option.some.injEq]
      exact ⟨fun h => ⟨h, h ▸ hm⟩, fun h => h.1⟩

end Setup

theorem bind_eq_ok_iff {ε α β : Type} {x : Except ε α} {f : α → Except ε β} {b : β} :
    x >>= f = .ok b ↔ ∃ a, x = .ok a ∧ f a = .ok b := by
  cases x with
  | error => exact ⟨nofun, nofun⟩
  | ok a => simp [bind, Except.bind]

theorem eq_some_getD {α : Type} {o : Option α} (h : o.isSome) (default : α) : o = some (o.getD default) := by
  cases o with
  | none => cases h
  | some a => rfl

theorem filter_ne_empty_eq_some_iff {o : Option String} {token : String} :
    o.filter (· ≠ "") = some token ↔ o = some token ∧ token ≠ "" := by
  simp [Option.filter_eq_some_iff]

theorem mapM_readAddress_eq_ok_iff {field : String} {o : Option String} {w : Option Address} :
    o.mapM (Setup.readAddress field) = .ok w ↔
      (o = none ∧ w = none) ∨ ∃ text a, o = some text ∧ Address.read text = .ok a ∧ w = some a := by
  cases o with
  | none =>
    change Except.ok none = .ok w ↔ _
    simp [eq_comm]
  | some text =>
    change (Setup.readAddress field text).map some = .ok w ↔ _
    cases hread : Setup.readAddress field text with
    | error =>
      have hnone : ∀ a, Address.read text ≠ .ok a := fun a ha => by
        rw [Setup.readAddress_eq_ok_iff.mpr ha] at hread
        cases hread
      simp [Except.map, hnone]
    | ok a =>
      have ha := Setup.readAddress_eq_ok_iff.mp hread
      simp [Except.map, ha, eq_comm]

namespace Layer

variable {l : Layer} {s : Setup}

theorem madeOf_of_resolve (h : l.resolve = .ok s) : s.MadeOf (builtIn.merge l).get := by
  have hset := get_merge_builtIn_isSome l
  simp only [resolve] at h
  obtain ⟨base, hbase, h⟩ := bind_eq_ok_iff.mp h
  obtain ⟨ws, hws, h⟩ := bind_eq_ok_iff.mp h
  obtain ⟨view, hview, h⟩ := bind_eq_ok_iff.mp h
  obtain ⟨timeout, htimeout, h⟩ := bind_eq_ok_iff.mp h
  obtain ⟨poll, hpoll, h⟩ := bind_eq_ok_iff.mp h
  obtain ⟨balance, hbalance, h⟩ := bind_eq_ok_iff.mp h
  obtain ⟨tick, htick, h⟩ := bind_eq_ok_iff.mp h
  cases h
  exact {
    baseUrl := ⟨_, eq_some_getD (hset .baseUrl (by decide)) "", Setup.readAddress_eq_ok_iff.mp hbase⟩
    wsUrl := mapM_readAddress_eq_ok_iff.mp hws
    websocket := eq_some_getD (hset .websocket (by decide)) false
    view := ⟨_, eq_some_getD (hset .view (by decide)) "", Setup.readView_eq_ok_iff.mp hview⟩
    minSats := eq_some_getD (hset .minSats (by decide)) 0
    playback := eq_some_getD (hset .playback (by decide)) true
    showReceivedSats := eq_some_getD (hset .showReceivedSats (by decide)) false
    defaultSound := rfl
    audio := eq_some_getD (hset .audio (by decide)) false
    pollIntervalSecs := Setup.positive_eq_ok_iff.mp hpoll
    balanceIntervalSecs := Setup.positive_eq_ok_iff.mp hbalance
    triggerTickMs := Setup.positive_eq_ok_iff.mp htick
    requestTimeoutSecs := Setup.positive_eq_ok_iff.mp htimeout
    maxRetries := eq_some_getD (hset .maxRetries (by decide)) 0
    authToken := fun token => filter_ne_empty_eq_some_iff
    logDir := eq_some_getD (hset .logDir (by decide)) "./logs"
    logLevel := eq_some_getD (hset .logLevel (by decide)) "info" }

theorem resolve_of_madeOf (h : s.MadeOf (builtIn.merge l).get) : l.resolve = .ok s := by
  obtain ⟨base, hbase, hreadBase⟩ := h.baseUrl
  obtain ⟨view, hview, hreadView⟩ := h.view
  have hbaseUrl : Address.read ((builtIn.merge l).baseUrl.getD "") = .ok s.baseUrl := by
    have hset : (builtIn.merge l).baseUrl = some base := hbase
    rw [hset, Option.getD_some]
    exact hreadBase
  have hviewName : View.parse ((builtIn.merge l).view.getD "") = .ok s.view := by
    have hset : (builtIn.merge l).view = some view := hview
    rw [hset, Option.getD_some]
    exact hreadView
  have htoken : (builtIn.merge l).authToken.filter (· ≠ "") = s.authToken := Option.ext fun token =>
    filter_ne_empty_eq_some_iff.trans (h.authToken token).symm
  refine bind_eq_ok_iff.mpr ⟨s.baseUrl, Setup.readAddress_eq_ok_iff.mpr hbaseUrl, ?_⟩
  refine bind_eq_ok_iff.mpr ⟨s.wsUrl, mapM_readAddress_eq_ok_iff.mpr h.wsUrl, ?_⟩
  refine bind_eq_ok_iff.mpr ⟨s.view, Setup.readView_eq_ok_iff.mpr hviewName, ?_⟩
  refine bind_eq_ok_iff.mpr ⟨_, Setup.positive_eq_ok_iff.mpr h.requestTimeoutSecs, ?_⟩
  refine bind_eq_ok_iff.mpr ⟨_, Setup.positive_eq_ok_iff.mpr h.pollIntervalSecs, ?_⟩
  refine bind_eq_ok_iff.mpr ⟨_, Setup.positive_eq_ok_iff.mpr h.balanceIntervalSecs, ?_⟩
  refine bind_eq_ok_iff.mpr ⟨_, Setup.positive_eq_ok_iff.mpr h.triggerTickMs, ?_⟩
  have hwebsocket : (builtIn.merge l).websocket = some s.websocket := h.websocket
  have hminSats : (builtIn.merge l).minSats = some s.session.minSats := h.minSats
  have hplayback : (builtIn.merge l).playback = some s.session.playback := h.playback
  have hreceived : (builtIn.merge l).showReceivedSats = some s.session.showReceivedSats := h.showReceivedSats
  have haudio : (builtIn.merge l).audio = some s.audio := h.audio
  have hretries : (builtIn.merge l).maxRetries = some s.maxRetries := h.maxRetries
  have hlogDir : (builtIn.merge l).logDir = some s.logDir := h.logDir
  have hlogLevel : (builtIn.merge l).logLevel = some s.logLevel := h.logLevel
  have hsession : ({
      minSats := s.session.minSats
      playback := s.session.playback
      showReceivedSats := s.session.showReceivedSats } : Settings) = s.session :=
    congrArg (Settings.mk s.session.minSats s.session.playback s.session.showReceivedSats) h.defaultSound.symm
  simp only [hwebsocket, hminSats, hplayback, hreceived, haudio, hretries, hlogDir, hlogLevel, htoken, Option.getD_some,
    hsession]
  rfl

theorem resolve_eq_ok_iff : l.resolve = .ok s ↔ s.MadeOf (builtIn.merge l).get := ⟨madeOf_of_resolve, resolve_of_madeOf⟩

variable {value : (k : OptionKey) → Option k.Kind}

theorem usable_of_madeOf (h : s.MadeOf value) {k : OptionKey} {v : k.Kind} (hv : value k = some v) : k.Usable v := by
  cases k with
  | baseUrl =>
    obtain ⟨text, htext, hread⟩ := h.baseUrl
    obtain rfl : text = v := Option.some.inj (htext.symm.trans hv)
    exact ⟨_, hread⟩
  | wsUrl =>
    rcases h.wsUrl with ⟨hnone, -⟩ | ⟨text, a, htext, hread, -⟩
    · cases hnone.symm.trans hv
    · obtain rfl : text = v := Option.some.inj (htext.symm.trans hv)
      exact ⟨a, hread⟩
  | view =>
    obtain ⟨text, htext, hparse⟩ := h.view
    obtain rfl : text = v := Option.some.inj (htext.symm.trans hv)
    exact ⟨_, hparse⟩
  | pollIntervalSecs => exact Option.some.inj (h.pollIntervalSecs.1.symm.trans hv) ▸ h.pollIntervalSecs.2
  | balanceIntervalSecs => exact Option.some.inj (h.balanceIntervalSecs.1.symm.trans hv) ▸ h.balanceIntervalSecs.2
  | triggerTickMs => exact Option.some.inj (h.triggerTickMs.1.symm.trans hv) ▸ h.triggerTickMs.2
  | requestTimeoutSecs => exact Option.some.inj (h.requestTimeoutSecs.1.symm.trans hv) ▸ h.requestTimeoutSecs.2
  | _ => exact True.intro

theorem exists_madeOf (hset : ∀ k, k ∉ [OptionKey.wsUrl, .authToken, .configPath] → (value k).isSome)
    (h : ∀ k v, value k = some v → k.Usable v) : ∃ s : Setup, s.MadeOf value := by
  have hvalue : ∀ k, k ∉ [OptionKey.wsUrl, .authToken, .configPath] → ∃ v, value k = some v :=
    fun k hk => Option.isSome_iff_exists.mp (hset k hk)
  obtain ⟨baseText, hbase⟩ := hvalue .baseUrl (by decide)
  obtain ⟨viewText, hview⟩ := hvalue .view (by decide)
  obtain ⟨websocket, hwebsocket⟩ := hvalue .websocket (by decide)
  obtain ⟨minSats, hminSats⟩ := hvalue .minSats (by decide)
  obtain ⟨playback, hplayback⟩ := hvalue .playback (by decide)
  obtain ⟨received, hreceived⟩ := hvalue .showReceivedSats (by decide)
  obtain ⟨audio, haudio⟩ := hvalue .audio (by decide)
  obtain ⟨poll, hpoll⟩ := hvalue .pollIntervalSecs (by decide)
  obtain ⟨balance, hbalance⟩ := hvalue .balanceIntervalSecs (by decide)
  obtain ⟨tick, htick⟩ := hvalue .triggerTickMs (by decide)
  obtain ⟨timeout, htimeout⟩ := hvalue .requestTimeoutSecs (by decide)
  obtain ⟨retries, hretries⟩ := hvalue .maxRetries (by decide)
  obtain ⟨logDir, hlogDir⟩ := hvalue .logDir (by decide)
  obtain ⟨logLevel, hlogLevel⟩ := hvalue .logLevel (by decide)
  obtain ⟨baseUrl, hreadBase⟩ := h _ _ hbase
  obtain ⟨view, hparseView⟩ := h _ _ hview
  obtain ⟨wsUrl, hws⟩ : ∃ wsUrl, (value .wsUrl = none ∧ wsUrl = none) ∨
      ∃ text a, value .wsUrl = some text ∧ Address.read text = .ok a ∧ wsUrl = some a := by
    cases hws : value .wsUrl with
    | none => exact ⟨none, .inl ⟨rfl, rfl⟩⟩
    | some text =>
      obtain ⟨a, ha⟩ := h _ _ hws
      exact ⟨some a, .inr ⟨text, a, rfl, ha, rfl⟩⟩
  exact ⟨{
    baseUrl, wsUrl, websocket, view, audio, logDir, logLevel
    session := { minSats, playback, showReceivedSats := received }
    pollIntervalSecs := poll
    balanceIntervalSecs := balance
    triggerTickMs := tick
    requestTimeoutSecs := timeout
    maxRetries := retries
    authToken := (value .authToken).filter (· ≠ "") },
    ⟨baseText, hbase, hreadBase⟩, hws, hwebsocket, ⟨viewText, hview, hparseView⟩, hminSats, hplayback, hreceived, rfl,
    haudio, ⟨hpoll, h _ _ hpoll⟩, ⟨hbalance, h _ _ hbalance⟩, ⟨htick, h _ _ htick⟩, ⟨htimeout, h _ _ htimeout⟩,
    hretries, fun token => filter_ne_empty_eq_some_iff, hlogDir, hlogLevel⟩

/-- The value of the uppermost of three layers that sets an option. -/
def winning (file commands : Layer) (k : OptionKey) : Option k.Kind :=
  (commands.get k).or ((file.get k).or (builtIn.get k))

theorem get_layers (file commands : Layer) (k : OptionKey) :
    ((builtIn.merge file).merge commands).get k = winning file commands k := by
  rw [get_merge, get_merge, winning]

theorem builtIn_merge_resolve (l : Layer) : (builtIn.merge l).resolve = l.resolve := by
  have hmerge : builtIn.merge (builtIn.merge l) = builtIn.merge l := by rw [← merge_assoc, merge_self]
  simp only [resolve, hmerge]

theorem resolve_layers_eq_ok_iff (file commands : Layer) (s : Setup) :
    ((builtIn.merge file).merge commands).resolve = .ok s ↔ s.MadeOf (winning file commands) := by
  have hget : ((builtIn.merge file).merge commands).get = winning file commands := funext (get_layers file commands)
  rw [merge_assoc, builtIn_merge_resolve, resolve_eq_ok_iff, ← merge_assoc, hget]

/-- A setup fails to come about just through a deciding value that cannot be used. -/
theorem resolve_layers_eq_error_iff (file commands : Layer) :
    (∃ e, ((builtIn.merge file).merge commands).resolve = .error e) ↔
      ∃ k v, winning file commands k = some v ∧ ¬ k.Usable v := by
  have hset : ∀ k, k ∉ [OptionKey.wsUrl, .authToken, .configPath] → (winning file commands k).isSome := by
    intro k hk
    rw [← get_layers, merge_assoc]
    exact get_merge_builtIn_isSome (file.merge commands) k hk
  have hfails : (∃ e, ((builtIn.merge file).merge commands).resolve = .error e) ↔
      ¬ ∃ s, ((builtIn.merge file).merge commands).resolve = .ok s := by
    cases ((builtIn.merge file).merge commands).resolve <;> simp
  have hmadeOf : (∃ s : Setup, s.MadeOf (winning file commands)) ↔
      ∀ k v, winning file commands k = some v → k.Usable v :=
    ⟨fun ⟨_, h⟩ _ _ hv => usable_of_madeOf h hv, exists_madeOf hset⟩
  simp only [hfails, resolve_layers_eq_ok_iff, hmadeOf, Classical.not_forall, exists_prop]

/-- Of a lower layer only what the upper one leaves open counts. -/
theorem merge_eq_of_uncovered {file file' commands : Layer}
    (h : ∀ k, commands.get k = none → file.get k = file'.get k) : file.merge commands = file'.merge commands := by
  refine ext_get fun k => ?_
  rw [get_merge, get_merge]
  cases hk : commands.get k with
  | none => exact h k hk
  | some v => rfl

end Layer

theorem Surroundings.load_eq (s : Surroundings) (args : List String) :
    s.load args = match readCommandLine s.environment args with
      | .error e => .error (.usage e)
      | .ok commands =>
        let file := s.settingsFile (commands.configPath.getD defaultSettingsFile)
        ((Layer.builtIn.merge file).merge commands).resolve.mapError .option := by
  unfold load
  cases readCommandLine s.environment args with
  | error => rfl
  | ok commands =>
    simp only [Layer.merge_assoc, Layer.builtIn_merge_resolve]
    generalize Layer.resolve _ = setup
    cases setup <;> rfl

namespace Layer

/-- Layers merge option by option: associatively, with the layer that sets nothing as unit, so that of the built-in
layer, a file and a command line the last that sets an option decides over it. Each setting is made of the deciding
value of its own option, and there is a setup unless one of these values cannot be used; what is decided over
otherwise does not matter. The built-in layer may be merged in before or not, and loading resolves just these
layers. -/
theorem layers_decide_by_option :
    (∀ a b c : Layer, (a.merge b).merge c = a.merge (b.merge c)) ∧
      (∀ l : Layer, ({} : Layer).merge l = l ∧ l.merge {} = l) ∧
      (∀ file commands : Layer,
        (∀ k, ((builtIn.merge file).merge commands).get k = (commands.get k).or ((file.get k).or (builtIn.get k))) ∧
        (∀ s, ((builtIn.merge file).merge commands).resolve = .ok s ↔ s.MadeOf (winning file commands)) ∧
        ((∃ e, ((builtIn.merge file).merge commands).resolve = .error e) ↔
          ∃ k v, winning file commands k = some v ∧ ¬ k.Usable v) ∧
        ∀ file' : Layer, (∀ k, commands.get k = none → file.get k = file'.get k) →
          ((builtIn.merge file).merge commands).resolve = ((builtIn.merge file').merge commands).resolve) ∧
      (∀ l : Layer, (builtIn.merge l).resolve = l.resolve) ∧
      ∀ (s : Surroundings) (args : List String), s.load args = match readCommandLine s.environment args with
        | .error e => .error (.usage e)
        | .ok commands =>
          let file := s.settingsFile (commands.configPath.getD Surroundings.defaultSettingsFile)
          ((builtIn.merge file).merge commands).resolve.mapError .option := by
  refine ⟨merge_assoc, fun l => ⟨unset_merge l, merge_unset l⟩, fun file commands => ⟨get_layers file commands,
    resolve_layers_eq_ok_iff file commands, resolve_layers_eq_error_iff file commands, fun file' h => ?_⟩,
    builtIn_merge_resolve, Surroundings.load_eq⟩
  rw [merge_assoc, merge_assoc, merge_eq_of_uncovered h]

/-- A file in which nothing can be used, under a command line that sets all of it. -/
theorem unusable_file_is_covered :
    let file : Layer := { baseUrl := some "", view := some "none", pollIntervalSecs := some 0 }
    let commands : Layer := { baseUrl := some "http://node.local", view := some "sent", pollIntervalSecs := some 5 }
    (∀ k, commands.get k = none → file.get k = ({} : Layer).get k) ∧
      ((builtIn.merge file).merge commands).resolve = ((builtIn.merge {}).merge commands).resolve := by
  intro file commands
  have huncovered : ∀ k, commands.get k = none → file.get k = ({} : Layer).get k := by
    intro k hk
    cases k <;> first | rfl | cases hk
  exact ⟨huncovered, (layers_decide_by_option.2.2.1 file commands).2.2.2 {} huncovered⟩

end Layer

end BoostFeed
