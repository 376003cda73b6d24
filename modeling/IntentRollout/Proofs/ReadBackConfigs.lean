import IntentRollout.Config.Reader
import IntentRollout.Proofs.RebuiltTables
import IntentRollout.Proofs.TableLaws
import IntentRollout.Proofs.ValidConfigurations

/-! Configurations that are printed and read again. Every section is printed with all its settings, so nothing is left
to a default; only a ceiling that is no number may come back as another word. -/

namespace IntentRollout

namespace Toml

/-- A table of settings only, or of tables only, keeps its order. -/
theorem arranged_uniform (headed : Bool) {entries : List (String × Toml)}
    (uniform : ∀ entry ∈ entries, entry.2.hasHeader = headed) :
    (Toml.table entries).arranged = .table (entries.map fun entry => (entry.1, entry.2.arranged)) := by
  have sides : arrangedOwn entries = (if headed then [] else entries.map fun entry => (entry.1, entry.2.arranged)) ∧
      arrangedHeaded entries = if headed then entries.map fun entry => (entry.1, entry.2.arranged) else [] := by
    induction entries with
    | nil => cases headed <;> exact ⟨rfl, rfl⟩
    | cons entry rest ih =>
      obtain ⟨here, later⟩ := List.forall_mem_cons.mp uniform
      obtain ⟨own, below⟩ := ih later
      rw [arrangedOwn, arrangedHeaded, here, own, below]
      cases headed <;> exact ⟨rfl, rfl⟩
  rw [arranged, sides.1, sides.2]
  cases headed with
  | true => rfl
  | false => exact congrArg Toml.table (List.append_nil _)

end Toml

open Toml

namespace Config

private theorem mapM_written {α β : Type} (read? : β → Option α) (write : α → β)
    (returns : ∀ value, read? (write value) = some value) (values : List α) :
    (values.map write).mapM read? = some values := by
  induction values with
  | nil => rfl
  | cons value rest ih =>
    rw [List.map_cons, List.mapM_cons, returns, ih]
    rfl

variable {α : Type} {read? : Toml → Option α}

private theorem defaulted?_eq {settings : List (String × Toml)} {name : String} {value : Toml} {result : α}
    (found : find? settings name = some value) (read : read? value = some result) (default : α) :
    defaulted? read? settings name default = some result := by
  rw [defaulted?, optional?, found]
  simp only [read, Option.map_some, Option.getD_some]

private theorem required?_eq {settings : List (String × Toml)} {name : String} {value : Toml} {result : α}
    (found : find? settings name = some value) (read : read? value = some result) :
    required? read? settings name = some result := by
  rw [required?, found]
  exact read

private theorem defaulted?_text {settings : List (String × Toml)} {name text : String}
    (found : find? settings name = some (.text text)) (default : String) : defaulted? text? settings name default = some text := by
  have read : text? (.text text) = some text := rfl
  exact defaulted?_eq found read default

/-- A table comes back if its values do, be they settings or tables below headers. -/
theorem table?_written (read? : Toml → Option α) (write : α → Toml) (headed : Bool)
    (uniform : ∀ value, (write value).hasHeader = headed)
    (returns : ∀ value, read? (write value).arranged = some value) (table : Table String α) :
    table? read? (Toml.table (table.mapValues fun _ value => write value).entries).arranged = some table := by
  have kept : ∀ entry ∈ (table.mapValues fun _ value => write value).entries, entry.2.hasHeader = headed := by
    intro entry member
    obtain ⟨_, _, rfl⟩ := List.mem_map.mp member
    exact uniform _
  have each (entry : String × α) :
      (read? (write entry.2).arranged).map (fun value => (entry.1, value)) = some entry := by
    rw [returns]
    rfl
  have taken : (table.entries.map fun entry => (entry.1, (write entry.2).arranged)).mapM
      (fun entry : String × Toml => (read? entry.2).map fun value => (entry.1, value)) = some table.entries :=
    mapM_written _ _ each _
  rw [arranged_uniform headed kept, Table.mapValues, List.map_map]
  refine (congrArg (fun values => values.bind fun entries => some (Table.ofList entries)) taken).trans ?_
  exact congrArg some (Table.ofList_entries table)

private theorem site?_written (site : Site) : site? site.toToml.arranged = some site := by
  obtain ⟨cluster, namespaceName, plmn, gnb, trackingArea, metricsUrl, syncStatusUrl⟩ := site
  cases metricsUrl <;> cases syncStatusUrl <;> rfl

private theorem readProfile?_written (profile : Profile) : readProfile? profile.toToml.arranged = some profile := rfl

private theorem byte?_natural (byte : UInt8) : byte? (.integer byte.toNat) = some byte := by
  have small : (0 : Int) ≤ byte.toNat ∧ (byte.toNat : Int) < UInt8.size :=
    ⟨Int.natCast_nonneg _, by exact_mod_cast byte.toNat_lt⟩
  rw [byte?, naturalBelow?, if_pos small, Option.map_some, Int.toNat_natCast, UInt8.ofNat_toNat]

private theorem word?_natural (word : UInt32) : word? (.integer word.toNat) = some word := by
  have small : (0 : Int) ≤ word.toNat ∧ (word.toNat : Int) < UInt32.size :=
    ⟨Int.natCast_nonneg _, by exact_mod_cast word.toNat_lt⟩
  rw [word?, naturalBelow?, if_pos small, Option.map_some, Int.toNat_natCast, UInt32.ofNat_toNat]

private theorem verify?_written (verify : VerifyTexts) : verify? verify.toToml.arranged = some verify := rfl

private theorem retry?_of_table {settings : List (String × Toml)} {retry : RetryTexts}
    (attempts : find? settings "max_attempts" = some (.integer retry.attempts.toNat))
    (initialPause : find? settings "initial_backoff" = some (.text retry.initialPause))
    (longestPause : find? settings "max_backoff" = some (.text retry.longestPause)) :
    retry? (.table settings) = some retry := by
  unfold retry?
  simp only [settings?, Option.bind_eq_bind, Option.bind_some, defaulted?_eq attempts (word?_natural _),
    defaulted?_text initialPause, defaulted?_text longestPause]

private theorem retry?_written (retry : RetryTexts) : retry? retry.toToml.arranged = some retry :=
  retry?_of_table rfl rfl rfl

private theorem list?_texts (texts : List String) :
    list? text? (Toml.array (texts.map .text)).arranged = some texts := by
  have items : arrangedItems (texts.map .text) = texts.map .text := by
    rw [arrangedItems_eq, List.map_map]
    rfl
  have taken : (texts.map Toml.text).mapM text? = some texts := mapM_written text? .text (fun _ => rfl) texts
  rw [arranged, items]
  exact taken

private theorem rollout?_of_table {settings : List (String × Toml)} {rollout : RolloutTexts}
    {fields verify retry : Toml}
    (slo : find? settings "slo" = some (.text rollout.slo))
    (deliveryRoot : find? settings "delivery_root" = some (.text rollout.deliveryRoot))
    (siteDirectory : find? settings "site_dir" = some (.text rollout.siteDirectory))
    (reportDirectory : find? settings "report_dir" = some (.text rollout.reportDirectory))
    (required : find? settings "required_fields" = some fields)
    (requiredFields : list? text? fields = some rollout.requiredFields)
    (gateTimeout : find? settings "gate_timeout" = some (.text rollout.gateTimeout))
    (verifying : find? settings "verify" = some verify) (verified : verify? verify = some rollout.verify)
    (retrying : find? settings "retry" = some retry) (retried : retry? retry = some rollout.retry) :
    rollout? (.table settings) = some rollout := by
  rw [rollout?]
  simp only [settings?, Option.bind_eq_bind, Option.bind_some, defaulted?_text slo, defaulted?_text deliveryRoot,
    defaulted?_text siteDirectory, defaulted?_text reportDirectory, defaulted?_eq required requiredFields,
    defaulted?_text gateTimeout, defaulted?_eq verifying verified, defaulted?_eq retrying retried]

/-- Required fields are a list of texts, so they stand on a line of their own, be they none or many. -/
theorem rollout?_written (rollout : RolloutTexts) : rollout? rollout.toToml.arranged = some rollout := by
  have shape : rollout.toToml.arranged = .table [("slo", .text rollout.slo),
      ("delivery_root", .text rollout.deliveryRoot), ("site_dir", .text rollout.siteDirectory),
      ("report_dir", .text rollout.reportDirectory),
      ("required_fields", (Toml.array (rollout.requiredFields.map .text)).arranged),
      ("gate_timeout", .text rollout.gateTimeout), ("verify", rollout.verify.toToml.arranged),
      ("retry", rollout.retry.toToml.arranged)] := by
    rw [RolloutTexts.toToml]
    cases rollout.requiredFields <;> rfl
  rw [shape]
  exact rollout?_of_table rfl rfl rfl rfl rfl (list?_texts _) rfl rfl (verify?_written _) rfl (retry?_written _)

private theorem defaults?_written (defaults : DefaultTargets) : defaults? defaults.toToml.arranged = some defaults := by
  have services : table? text? _ = some defaults.byService :=
    table?_written text? .text false (fun _ => rfl) (fun _ => rfl) defaults.byService
  have shape : defaults.toToml.arranged = .table [("target_site", .text defaults.target),
      ("target_site_by_service",
        (Toml.table (defaults.byService.mapValues fun _ target => .text target).entries).arranged)] := rfl
  rw [shape, defaults?]
  simp only [settings?, Option.bind_eq_bind, Option.bind_some]
  rw [defaulted?_eq rfl services]
  rfl

end Config

def Breakpoint.canonical (point : Breakpoint) : Breakpoint := { point with ceiling := point.ceiling.canonical }

def Qos.canonical (qos : Qos) : Qos := { qos with breakpoints := qos.breakpoints.map Breakpoint.canonical }

def Config.canonical (config : Config) : Config := { config with qos := config.qos.canonical }

namespace Config

private theorem breakpoint?_of_table {settings : List (String × Toml)} {point : Breakpoint}
    (ceiling : find? settings "max_latency_ms" = some (.float point.ceiling))
    (fiveQi : find? settings "five_qi" = some (.integer point.fiveQi.toNat)) :
    breakpoint? (.table settings) = some point := by
  have read : float? (.float point.ceiling) = some point.ceiling := rfl
  rw [breakpoint?]
  simp only [settings?, Option.bind_eq_bind, Option.bind_some, required?_eq ceiling read,
    required?_eq fiveQi (byte?_natural _)]

private theorem list?_breakpoints (points : List Breakpoint) :
    list? breakpoint? (Toml.array (points.map Breakpoint.toToml)).arranged = some (points.map .canonical) := by
  have read (point : Breakpoint) : breakpoint? point.toToml.arranged = some point.canonical :=
    breakpoint?_of_table rfl rfl
  have taken : (arrangedItems (points.map Breakpoint.toToml)).mapM breakpoint? = some (points.map .canonical) := by
    rw [arrangedItems_eq, List.map_map]
    induction points with
    | nil => rfl
    | cons point rest ih =>
      rw [List.map_cons, List.mapM_cons, Function.comp_apply, read, ih]
      rfl
  rw [arranged]
  exact taken

private theorem hasHeader_breakpoints {points : List Breakpoint} (some : points ≠ []) :
    (Toml.array (points.map Breakpoint.toToml)).hasHeader = true :=
  hasHeader_array (mt List.map_eq_nil_iff.mp some) (List.forall_mem_map.mpr fun _ _ => rfl)

private theorem qos?_of_table {settings : List (String × Toml)} {qos : Qos} {points : Toml}
    (listed : find? settings "breakpoints" = some points)
    (breakpoints : list? breakpoint? points = some qos.breakpoints)
    (defaultFiveQi : find? settings "default_five_qi" = some (.integer qos.defaultFiveQi.toNat)) :
    qos? (.table settings) = some qos := by
  rw [qos?]
  simp only [settings?, Option.bind_eq_bind, Option.bind_some, defaulted?_eq listed breakpoints,
    defaulted?_eq defaultFiveQi (byte?_natural _)]

/-- No breakpoints are a setting of their own; otherwise they stand below headers, behind the class above them. -/
theorem qos?_written (qos : Qos) : qos? qos.toToml.arranged = some qos.canonical := by
  have breakpoints := list?_breakpoints qos.breakpoints
  rw [Qos.toToml]
  cases same : qos.breakpoints with
  | nil =>
    rw [same] at breakpoints
    have classes : list? breakpoint? (Toml.array []).arranged = some qos.canonical.breakpoints := by
      rw [Qos.canonical, same]
      exact breakpoints
    exact qos?_of_table rfl classes rfl
  | cons point rest =>
    have headed := hasHeader_breakpoints (List.cons_ne_nil point rest)
    have shape : (Toml.table [("breakpoints", .array ((point :: rest).map Breakpoint.toToml)),
        ("default_five_qi", .integer qos.defaultFiveQi.toNat)]).arranged =
          .table [("default_five_qi", .integer qos.defaultFiveQi.toNat),
            ("breakpoints", (Toml.array ((point :: rest).map Breakpoint.toToml)).arranged)] := by
      simp only [arranged, arrangedOwn, arrangedHeaded, headed, if_true]
      rfl
    rw [shape, ← same]
    exact qos?_of_table rfl breakpoints rfl

private theorem ofToml?_of_table {settings : List (String × Toml)} {config : Config}
    {sites profiles qos defaults rollout : Toml}
    (sited : find? settings "sites" = some sites) (siteTable : table? site? sites = some config.sites)
    (profiled : find? settings "profiles" = some profiles)
    (profileTable : table? readProfile? profiles = some config.profiles)
    (classed : find? settings "qos" = some qos) (classes : qos? qos = some config.qos)
    (defaulted : find? settings "defaults" = some defaults) (targets : defaults? defaults = some config.defaults)
    (rolled : find? settings "rollout" = some rollout) (texts : rollout? rollout = some config.rollout) :
    ofToml? (.table settings) = some config := by
  rw [ofToml?]
  simp only [settings?, Option.bind_eq_bind, Option.bind_some, defaulted?_eq sited siteTable,
    defaulted?_eq profiled profileTable, defaulted?_eq classed classes, defaulted?_eq defaulted targets,
    defaulted?_eq rolled texts]

private theorem ofToml?_written (config : Config) :
    ofToml? (Toml.table config.settings).arranged = some config.canonical := by
  have sites := table?_written site? Site.toToml true (fun _ => rfl) site?_written config.sites
  have profiles := table?_written readProfile? Profile.toToml true (fun _ => rfl) readProfile?_written config.profiles
  exact ofToml?_of_table rfl sites rfl profiles rfl (qos?_written _) rfl (defaults?_written _) rfl (rollout?_written _)

private theorem inRange_natural {value : Nat} (small : value < UInt32.size) : inRange value = true := by
  have low : Int64.minValue.toInt ≤ 0 := by decide
  have high : (UInt32.size : Int) ≤ Int64.maxValue.toInt := by decide
  rw [inRange, Bool.and_eq_true, decide_eq_true_eq, decide_eq_true_eq]
  omega

private theorem plain_own {levels : Nat} {entries : List (String × Toml)} (distinct : (entries.map (·.1)).Nodup)
    (leaves : ∀ entry ∈ entries, Leaf maximalLevels entry.2) : Plain (levels + 1) (.table entries) :=
  .table distinct fun entry member => .leaf (leaves entry member)

theorem plain_site (levels : Nat) (site : Site) : Plain (levels + 1) site.toToml := by
  obtain ⟨cluster, namespaceName, plmn, gnb, trackingArea, metricsUrl, syncStatusUrl⟩ := site
  cases metricsUrl <;> cases syncStatusUrl <;>
    exact plain_own (by simp [optionalSetting]) (by simp [optionalSetting, Leaf.text])

private theorem plain_profile (levels : Nat) (profile : Profile) : Plain (levels + 1) profile.toToml :=
  plain_own (by simp) (by simp [Leaf.text])

private theorem plain_mapValues {α : Type} {levels : Nat} {write : α → Toml}
    (plain : ∀ value, Plain levels (write value))
    (table : Table String α) : Plain (levels + 1) (.table (table.mapValues fun _ value => write value).entries) := by
  refine .table (Table.nodup_keys _) fun entry member => ?_
  obtain ⟨_, _, rfl⟩ := List.mem_map.mp member
  exact plain _

private theorem leaf_byte (byte : UInt8) : Leaf maximalLevels (.integer byte.toNat) :=
  .integer (inRange_natural (Nat.lt_trans byte.toNat_lt (by decide)))

private theorem plain_qos (levels : Nat) (qos : Qos) : Plain (levels + 2) qos.toToml := by
  refine .table (by simp) (List.forall_mem_cons.mpr ⟨?_, List.forall_mem_singleton.mpr (.leaf (leaf_byte _))⟩)
  have listed : qos.breakpoints.map Breakpoint.toToml = (qos.breakpoints.map fun point =>
      [("max_latency_ms", .float point.ceiling), ("five_qi", .integer point.fiveQi.toNat)]).map .table := by
    rw [List.map_map]
    rfl
  rw [listed]
  by_cases none : qos.breakpoints = []
  · rw [none]
    exact .leaf (.array fun _ absent => nomatch absent)
  · refine .tables (mt List.map_eq_nil_iff.mp none) (List.forall_mem_map.mpr fun point _ => ?_)
    exact plain_own (by simp) (by simp [Leaf.float, leaf_byte])

private theorem plain_defaults (levels : Nat) (defaults : DefaultTargets) : Plain (levels + 2) defaults.toToml := by
  refine .table (by simp) (List.forall_mem_cons.mpr ⟨.leaf (.text _), List.forall_mem_singleton.mpr ?_⟩)
  exact plain_mapValues (fun _ => .leaf (.text _)) defaults.byService

private theorem plain_verify (levels : Nat) (verify : VerifyTexts) : Plain (levels + 1) verify.toToml :=
  plain_own (by simp) (by simp [Leaf.text])

private theorem plain_retry (levels : Nat) (retry : RetryTexts) : Plain (levels + 1) retry.toToml :=
  plain_own (by simp) (by simp [Leaf.text, Leaf.integer (inRange_natural retry.attempts.toNat_lt)])

private theorem plain_rollout (levels : Nat) (rollout : RolloutTexts) : Plain (levels + 2) rollout.toToml := by
  have fields : Leaf maximalLevels (.array (rollout.requiredFields.map .text)) :=
    .array (List.forall_mem_map.mpr fun text _ => .text text)
  have texts (text : String) : Plain (levels + 1) (.text text) := .leaf (.text text)
  refine .table (by simp) ?_
  simp [texts, plain_verify, plain_retry, Plain.leaf fields]

private theorem plain_settings (config : Config) : Plain 3 (.table config.settings) := by
  refine .table (by simp [settings]) ?_
  simp only [settings, List.forall_mem_cons, List.not_mem_nil, false_implies, implies_true, and_true]
  exact ⟨plain_mapValues (plain_site 0) config.sites, plain_mapValues (plain_profile 0) config.profiles,
    plain_qos 0 config.qos, plain_defaults 0 config.defaults, plain_rollout 0 config.rollout⟩

private theorem writtenFloat_canonical (value : Binary64) : writtenFloat value.canonical = writtenFloat value := by
  rw [Binary64.canonical]
  split
  next none =>
    rw [writtenFloat, writtenFloat, if_pos none]
    rfl
  · rfl

private theorem itemBlocks_canonical (path : List String) (points : List Breakpoint) :
    itemBlocks path ((points.map .canonical).map Breakpoint.toToml) =
      itemBlocks path (points.map Breakpoint.toToml) := by
  have shape (point : Breakpoint) (rest : List Toml) : itemBlocks path (point.toToml :: rest) =
      ⟨some ("[[" ++ writtenPath path ++ "]]"), [writtenKey "max_latency_ms" ++ " = " ++ writtenFloat point.ceiling,
        writtenKey "five_qi" ++ " = " ++ toString (point.fiveQi.toNat : Int)]⟩ :: itemBlocks path rest := rfl
  induction points with
  | nil => rfl
  | cons point rest ih =>
    rw [List.map_cons, List.map_cons, List.map_cons, shape, shape, ih, Breakpoint.canonical, writtenFloat_canonical]

private theorem blocks_canonical (path : List String) (qos : Qos) :
    qos.canonical.toToml.blocks path = qos.toToml.blocks path := by
  by_cases none : qos.breakpoints = []
  · rw [Qos.canonical, none, Qos.toToml, Qos.toToml, none]
    rfl
  have shape {items : List Toml} (headed : (Toml.array items).hasHeader = true) :
      (Toml.table [("breakpoints", .array items), ("default_five_qi", .integer qos.defaultFiveQi.toNat)]).blocks path =
        tableBlock path [("default_five_qi", .integer qos.defaultFiveQi.toNat)] ++
          itemBlocks (path ++ ["breakpoints"]) items := by
    simp [blocks, tableBlock, ownLines, entryBlocks, headed]
  rw [Qos.toToml, Qos.toToml, Qos.canonical, shape (hasHeader_breakpoints none),
    shape (hasHeader_breakpoints (mt List.map_eq_nil_iff.mp none)), itemBlocks_canonical]

private theorem print_canonical (config : Config) : config.canonical.print = config.print := by
  have shape (config : Config) : (Toml.table config.settings).blocks [] =
      (Toml.table (config.sites.mapValues fun _ site => site.toToml).entries).blocks ["sites"] ++
        ((Toml.table (config.profiles.mapValues fun _ profile => profile.toToml).entries).blocks ["profiles"] ++
          (config.qos.toToml.blocks ["qos"] ++ (config.defaults.toToml.blocks ["defaults"] ++
            (config.rollout.toToml.blocks ["rollout"] ++ [])))) := rfl
  rw [Config.print, Config.print, Toml.print, Toml.print, shape, shape, canonical, blocks_canonical]

private theorem isNaN_canonical (value : Binary64) : value.canonical.isNaN = value.isNaN := by
  rw [Binary64.canonical]
  split
  next none => rw [none]; rfl
  · rfl

private theorem canonical_of_number {value : Binary64} (number : value.isNaN = false) : value.canonical = value :=
  if_neg (Bool.eq_false_iff.mp number)

private theorem lt_canonical (first second : Binary64) : first.canonical.lt second.canonical = first.lt second := by
  rw [Binary64.lt, Binary64.lt, isNaN_canonical, isNaN_canonical]
  cases one : first.isNaN with
  | true => rfl
  | false =>
    cases other : second.isNaN with
    | true => rfl
    | false => rw [canonical_of_number one, canonical_of_number other]

private theorem ascending_canonical (points : List Breakpoint) :
    ascending (points.map .canonical) = ascending points := by
  match points with
  | [] => rfl
  | [_] => rfl
  | first :: second :: rest =>
    have later := ascending_canonical (second :: rest)
    rw [List.map_cons, List.map_cons, ascending, ascending, ← List.map_cons, later]
    exact congrArg (· && _) (lt_canonical first.ceiling second.ceiling)

private theorem valid_canonical {config : Config} (valid : Valid config) : Valid config.canonical where
  sited := valid.sited
  unreserved := valid.unreserved
  placed := valid.placed
  numbered := valid.numbered
  fallback := valid.fallback
  ordered := (ascending_canonical config.qos.breakpoints).trans valid.ordered
  defaults := valid.defaults
  tried := valid.tried
  timed := valid.timed

theorem read_eq_ok {text : String} {config : Config} :
    read text = .ok config ↔ (Toml.read? text).bind ofToml? = some config ∧ config.validate = .ok () := by
  rw [read]
  cases found : (Toml.read? text).bind ofToml? with
  | none => exact ⟨nofun, nofun⟩
  | some other =>
    rw [bind_eq_ok, Option.some.injEq]
    constructor
    · rintro ⟨_, valid, same⟩
      obtain rfl := Except.ok.inj same
      exact ⟨rfl, valid⟩
    · rintro ⟨rfl, valid⟩
      exact ⟨(), valid, rfl⟩

private theorem read_print_canonical {config : Config} (valid : Valid config) :
    read config.print = .ok config.canonical := by
  have tree : Toml.read? config.print = some (Toml.table config.settings).arranged :=
    read?_print_plain (by decide) (plain_settings config)
  rw [read_eq_ok, tree, Option.bind_some]
  exact ⟨ofToml?_written config, validate_eq_ok.mpr (valid_canonical valid)⟩

end Config

/-- Breakpoints that are the same but for what is no number: that has many words, which all say the same. -/
structure Breakpoint.Agrees (first second : Breakpoint) : Prop where
  ceiling : first.ceiling = second.ceiling ∨ first.ceiling.isNaN = true ∧ second.ceiling.isNaN = true
  fiveQi : first.fiveQi = second.fiveQi

structure Config.Agrees (first second : Config) : Prop where
  sites : first.sites = second.sites
  profiles : first.profiles = second.profiles
  breakpoints : List.Forall₂ Breakpoint.Agrees first.qos.breakpoints second.qos.breakpoints
  defaultFiveQi : first.qos.defaultFiveQi = second.qos.defaultFiveQi
  defaults : first.defaults = second.defaults
  rollout : first.rollout = second.rollout

namespace Config

private theorem agrees_breakpoint (point : Breakpoint) : point.canonical.Agrees point where
  ceiling := by
    cases number : point.ceiling.isNaN with
    | true => exact .inr ⟨(isNaN_canonical _).trans number, rfl⟩
    | false => exact .inl (canonical_of_number number)
  fiveQi := rfl

private theorem agrees_canonical (config : Config) : config.canonical.Agrees config where
  sites := rfl
  profiles := rfl
  breakpoints := by
    change List.Forall₂ Breakpoint.Agrees (config.qos.breakpoints.map .canonical) config.qos.breakpoints
    rw [List.forall₂_map_left_iff, List.forall₂_same]
    exact fun point _ => agrees_breakpoint point
  defaultFiveQi := rfl
  defaults := rfl
  rollout := rfl

/-- A configuration that was accepted comes back from its own text with every setting, and is printed the same again. -/
theorem read_print {text : String} {config : Config} (accepted : read text = .ok config) :
    ∃ again, read config.print = .ok again ∧ again.Agrees config ∧ again.print = config.print := by
  have valid := validate_eq_ok.mp (read_eq_ok.mp accepted).2
  exact ⟨config.canonical, read_print_canonical valid, agrees_canonical config, print_canonical config⟩

/-- A ceiling that is no number and has a sign, and nothing where other fields are standard. -/
def unsettledText : String := "[qos]\nbreakpoints = [[-nan, 7]]\n[rollout]\nrequired_fields = []\n"

def unsettled : Config where
  qos := ⟨[⟨.notANumber true, 7⟩], 9⟩
  rollout := { requiredFields := [] }

theorem read_print_unsettled : read unsettledText = .ok unsettled ∧
    ∃ again, read unsettled.print = .ok again ∧ again.Agrees unsettled ∧ again.print = unsettled.print := by
  have accepted : read unsettledText = .ok unsettled := read_eq_ok.mpr ⟨by decide +kernel, by decide +kernel⟩
  exact ⟨accepted, read_print accepted⟩

end Config

end IntentRollout
