import VirtualNpu.Proofs.GivenFlags

/-!
The arguments of the daemon.  What is given is taken before what the environment has, and that before
the defaults.
-/

namespace VirtualNpu
namespace CommandLine

/-! ### Completion -/

/-- Whether what a source has for a flag can be read, if that is not set. -/
def IsReadable (source texts : Flag → Option String) (flag : Flag) : Prop :=
  texts flag = none → ∀ text, source flag = some text → ∃ value, flag.Reads text value

def fill (source : Flag → Option String) (settings : Settings) (flag : Flag) :
    Except Error Settings :=
  match settings.find? flag, source flag with
  | none, some value => settings.set flag value
  | _, _ => .ok settings

theorem fill_spec (source : Flag → Option String) (flag : Flag) {settings : Settings}
    {texts : Flag → Option String} (holds : AreReadOf settings.find? texts) :
    Yields (fill source settings flag)
      (fun after => IsReadable source texts flag ∧
        AreReadOf after.find? (Function.update texts flag ((texts flag).or (source flag))))
      (¬ IsReadable source texts flag) := by
  have set := holds.isSome_eq flag
  unfold fill IsReadable
  cases given : texts flag with
  | some text =>
      rw [given] at set
      obtain ⟨value, found⟩ := Option.isSome_iff_exists.mp set
      simp only [found]
      refine ⟨nofun, ?_⟩
      rw [Option.some_or, ← given, Function.update_eq_self]
      exact holds
  | none =>
      rw [given] at set
      have unset : settings.find? flag = none := by simpa using set
      simp only [unset]
      cases offered : source flag with
      | none =>
          refine ⟨fun _ => nofun, ?_⟩
          rw [Option.or_none, ← given, Function.update_eq_self]
          exact holds
      | some text =>
          refine (set_spec holds flag text).imp ?_ ?_
          · rintro after ⟨⟨-, readable⟩, held⟩
            refine ⟨?_, held⟩
            rintro - text' ⟨⟩
            exact readable
          · exact fun unread readable => unread ⟨given, readable trivial text rfl⟩

theorem isReadable_update_iff (source texts : Flag → Option String) (flag other : Flag)
    (readable : IsReadable source texts flag) :
    IsReadable source (Function.update texts flag ((texts flag).or (source flag))) other ↔
      IsReadable source texts other := by
  by_cases same : other = flag
  · subst same
    refine iff_of_true (fun unset text offered => ?_) readable
    rw [Function.update_self, Option.or_eq_none_iff] at unset
    rw [unset.2] at offered
    cases offered
  · unfold IsReadable
    rw [Function.update_of_ne same]

theorem complete_spec (source : Flag → Option String) (flags : List Flag) {settings : Settings}
    {texts : Flag → Option String} (holds : AreReadOf settings.find? texts) :
    Yields (settings.complete source flags)
      (fun after => (∀ flag ∈ flags, IsReadable source texts flag) ∧
        AreReadOf after.find? fun flag =>
          (texts flag).or (if flag ∈ flags then source flag else none))
      (¬ ∀ flag ∈ flags, IsReadable source texts flag) := by
  induction flags generalizing settings texts with
  | nil =>
      refine ⟨List.forall_mem_nil _, fun flag => ?_⟩
      dsimp only
      rw [if_neg List.not_mem_nil, Option.or_none]
      exact holds flag
  | cons flag flags ih =>
      rw [List.forall_mem_cons]
      refine (fill_spec source flag holds).bind (mt And.left) ?_
      rintro between ⟨readable, held⟩
      -- what is set from the source need not be read again, so the condition stays the first one
      have later (other : Flag) := isReadable_update_iff source texts flag other readable
      have rest := ih held
      simp only [later] at rest
      refine rest.imp ?_ (mt And.right)
      rintro after ⟨readable', held'⟩
      refine ⟨⟨readable, readable'⟩, fun other => ?_⟩
      have related := held' other
      dsimp only at related ⊢
      by_cases same : other = flag
      · subst same
        rw [Function.update_self, Option.or_assoc] at related
        rw [if_pos List.mem_cons_self]
        have once : (source other).or (if other ∈ flags then source other else none) =
            source other := by
          cases source other <;> simp
        rwa [once] at related
      · rw [Function.update_of_ne same] at related
        simpa only [List.mem_cons, same, false_or] using related

theorem mem_daemon_flags (flag : Flag) : flag ∈ Command.daemon.flags := by
  cases flag <;> decide

theorem complete_daemon_spec (source : Flag → Option String) {settings : Settings}
    {texts : Flag → Option String} (holds : AreReadOf settings.find? texts) :
    Yields (settings.complete source Command.daemon.flags)
      (fun after => (∀ flag, IsReadable source texts flag) ∧
        AreReadOf after.find? fun flag => (texts flag).or (source flag))
      (¬ ∀ flag, IsReadable source texts flag) := by
  simpa only [mem_daemon_flags, forall_const, if_true] using
    complete_spec source Command.daemon.flags holds

/-! ### Sources -/

def environmentText (environment : String → Option String) (flag : Flag) : Option String :=
  flag.environmentName.bind environment

/-- Where a flag has its text from: what is given, else the environment, else the default. -/
def sourceText (environment : String → Option String) (given : List Given) (flag : Flag) :
    Option String :=
  (givenText given flag).or ((environmentText environment flag).or flag.default?)

theorem default_readable {flag : Flag} {text : String} (default : flag.default? = some text) :
    ∃ value, flag.Reads text value := by
  have known (value : Value) (read : flag.read text = .ok value) : ∃ value, flag.Reads text value :=
    ⟨value, (read_eq_ok_iff flag text value).mp read⟩
  cases flag <;> cases default
  case handshakeOffset => exact known (.seconds 0) (by decide)
  all_goals exact known (.text _) rfl

inductive IsAmiss (environment : String → Option String) (given : List Given) : Prop where
  | repeated (again : ¬ (given.map Given.flag).Nodup)
  | given {next : Given} (inside : next ∈ given)
      (unread : ¬ ∃ value, next.flag.Reads next.text value)
  | environment {flag : Flag} {text : String} (absent : flag ∉ given.map Given.flag)
      (present : environmentText environment flag = some text)
      (unread : ¬ ∃ value, flag.Reads text value)
  | nameless (absent : .nodeName ∉ given.map Given.flag) (unset : environment "NODE_NAME" = none)

section
variable {environment : String → Option String} {given : List Given}

theorem isAmiss_of_not_areFresh (unfit : ¬ AreFresh (fun _ => none) given) :
    IsAmiss environment given := by
  by_contra sound
  refine unfit ⟨not_not.mp fun again => sound (.repeated again), fun next inside => ⟨rfl, ?_⟩⟩
  exact not_not.mp fun unread => sound (.given inside unread)

/-- The settings of the daemon: what is given, then the environment, then the defaults. -/
theorem settings_spec (written : ∀ next ∈ given, next.IsWritten) :
    Yields (Command.daemon.settings environment (given.flatMap Given.words))
      (fun settings => (given.map Given.flag).Nodup ∧
        AreReadOf settings.find? (sourceText environment given))
      (IsAmiss environment given) := by
  unfold Command.settings
  rw [run_given given written]
  refine Yields.bind (setAll_spec given areReadOf_nil) isAmiss_of_not_areFresh ?_
  rintro first ⟨⟨distinct, -⟩, held⟩
  simp only [Option.or_none] at held
  refine (complete_daemon_spec (environmentText environment) held).bind ?_ ?_
  · intro unfit
    by_contra sound
    refine unfit fun flag absent text present => not_not.mp fun unread => sound ?_
    exact .environment ((givenText_eq_none_iff given flag).mp absent) present unread
  · rintro second ⟨-, held'⟩
    refine (complete_daemon_spec Flag.default? held').imp ?_ ?_
    · rintro settings ⟨-, held''⟩
      refine ⟨distinct, fun flag => ?_⟩
      have related := held'' flag
      dsimp only at related
      rwa [Option.or_assoc] at related
    · exact fun unfit => absurd (fun flag _ text default => default_readable default) unfit

end

/-! ### Arguments -/

def DaemonArguments.value? (arguments : DaemonArguments) : Flag → Option Value
  | .configFile => some (.text arguments.configFile)
  | .nodeName => some (.text arguments.nodeName)
  | .chipName => arguments.chipName.map .text
  | .inventoryFile => some (.text arguments.inventoryFile)
  | .devicePluginDir => some (.text arguments.devicePluginDir)
  | .kubeletSocket => some (.text arguments.kubeletSocket)
  | .kubeconfig => arguments.kubeconfig.map .text
  | .handshakeOffset => some (.seconds arguments.handshakeOffset)
  | .logPath => arguments.logPath.map .text

theorem value?_injective : Function.Injective DaemonArguments.value? := by
  intro arguments other same
  have alike (flag : Flag) : arguments.value? flag = other.value? flag := congrFun same flag
  have text {here there : String} (same : some (Value.text here) = some (.text there)) :
      here = there :=
    Value.text.inj (Option.some.inj same)
  have optional {here there : Option String} (same : here.map Value.text = there.map .text) :
      here = there :=
    Option.map_injective (fun _ _ => Value.text.inj) same
  cases arguments
  cases other
  rw [DaemonArguments.mk.injEq]
  exact ⟨text (alike .configFile), text (alike .nodeName), optional (alike .chipName),
    text (alike .inventoryFile), text (alike .devicePluginDir), text (alike .kubeletSocket),
    optional (alike .kubeconfig), Value.seconds.inj (Option.some.inj (alike .handshakeOffset)),
    optional (alike .logPath)⟩

section
variable {settings : Settings} {texts : Flag → Option String}

theorem find?_eq_text (holds : AreReadOf settings.find? texts) {flag : Flag}
    (other : flag ≠ .handshakeOffset) :
    settings.find? flag = (settings.text? flag).map .text := by
  unfold Settings.text?
  cases found : settings.find? flag with
  | none => rfl
  | some value =>
      obtain ⟨text, -, reads⟩ := holds.of_value found
      unfold Flag.Reads at reads
      rw [if_neg other] at reads
      rw [reads.2]
      rfl

theorem find?_eq_seconds (holds : AreReadOf settings.find? texts) :
    settings.find? .handshakeOffset = (settings.seconds? .handshakeOffset).map .seconds := by
  unfold Settings.seconds?
  cases found : settings.find? .handshakeOffset with
  | none => rfl
  | some value =>
      obtain ⟨_, -, n, rfl, -⟩ := holds.of_value found
      rfl

theorem ofSettings_spec (holds : AreReadOf settings.find? texts)
    (defaulted : ∀ flag, flag.default?.isSome = true → (texts flag).isSome = true) :
    Yields (DaemonArguments.ofSettings settings)
      (fun arguments => arguments.value? = settings.find?) (texts .nodeName = none) := by
  have present (flag : Flag) (other : flag ≠ .handshakeOffset)
      (default : flag.default?.isSome = true) : ∃ text, settings.text? flag = some text := by
    have set := (holds.isSome_eq flag).trans (defaulted flag default)
    rw [find?_eq_text holds other, Option.isSome_map] at set
    exact Option.isSome_iff_exists.mp set
  obtain ⟨configFile, config⟩ := present .configFile (by decide) rfl
  obtain ⟨inventoryFile, inventory⟩ := present .inventoryFile (by decide) rfl
  obtain ⟨devicePluginDir, directory⟩ := present .devicePluginDir (by decide) rfl
  obtain ⟨kubeletSocket, socket⟩ := present .kubeletSocket (by decide) rfl
  obtain ⟨offset, handshake⟩ : ∃ offset, settings.seconds? .handshakeOffset = some offset := by
    have set := (holds.isSome_eq .handshakeOffset).trans (defaulted .handshakeOffset rfl)
    rw [find?_eq_seconds holds, Option.isSome_map] at set
    exact Option.isSome_iff_exists.mp set
  have named := find?_eq_text holds (show Flag.nodeName ≠ .handshakeOffset by decide)
  unfold DaemonArguments.ofSettings
  simp only [config, inventory, directory, socket, handshake]
  cases node : settings.text? .nodeName with
  | none =>
      have unset := holds.isSome_eq .nodeName
      rw [named, node] at unset
      exact Option.isNone_iff_eq_none.mp (by simpa using unset.symm)
  | some nodeName =>
      funext flag
      by_cases seconds : flag = .handshakeOffset
      · subst seconds
        rw [find?_eq_seconds holds, handshake]
        rfl
      · rw [find?_eq_text holds seconds]
        cases flag
        case configFile => rw [config]; rfl
        case nodeName => rw [node]; rfl
        case inventoryFile => rw [inventory]; rfl
        case devicePluginDir => rw [directory]; rfl
        case kubeletSocket => rw [socket]; rfl
        case handshakeOffset => exact absurd rfl seconds
        all_goals rfl

end

/-! ### Command lines -/

section
variable {environment : String → Option String} {given : List Given}

theorem isSome_sourceText_of_default {flag : Flag} (default : flag.default?.isSome = true) :
    (sourceText environment given flag).isSome = true := by
  unfold sourceText
  rw [Option.isSome_or, Option.isSome_or, default, Bool.or_true, Bool.or_true]

theorem isAmiss_of_nameless (absent : sourceText environment given .nodeName = none) :
    IsAmiss environment given := by
  obtain ⟨ungiven, rest⟩ := Option.or_eq_none_iff.mp absent
  obtain ⟨unset, -⟩ := Option.or_eq_none_iff.mp rest
  exact .nameless ((givenText_eq_none_iff given .nodeName).mp ungiven) unset

/-- The daemon is asked for with the values that are read, unless something is amiss. -/
theorem parse_spec (written : ∀ next ∈ given, next.IsWritten) :
    Yields (parse environment ("daemon" :: given.flatMap Given.words))
      (fun invocation => (given.map Given.flag).Nodup ∧
        ∃ arguments : DaemonArguments, invocation = .daemon arguments ∧
          AreReadOf arguments.value? (sourceText environment given))
      (IsAmiss environment given) := by
  change Yields ((Command.daemon.settings environment (given.flatMap Given.words)).bind
    Command.daemon.invocation) _ _
  refine (settings_spec written).bind id ?_
  rintro settings ⟨distinct, holds⟩
  change Yields ((DaemonArguments.ofSettings settings).bind fun arguments =>
    .ok (Invocation.daemon arguments)) _ _
  refine (ofSettings_spec holds fun _ => isSome_sourceText_of_default).bind isAmiss_of_nameless ?_
  rintro arguments same
  refine ⟨distinct, arguments, rfl, fun flag => ?_⟩
  rw [same]
  exact holds flag

theorem not_isAmiss {arguments : DaemonArguments} (distinct : (given.map Given.flag).Nodup)
    (read : AreReadOf arguments.value? (sourceText environment given)) :
    ¬ IsAmiss environment given := by
  have readable {flag : Flag} {text : String}
      (present : sourceText environment given flag = some text) :
      ∃ value, flag.Reads text value :=
    (read.of_text present).imp fun _ => And.right
  intro amiss
  cases amiss with
  | repeated again => exact again distinct
  | given inside unread =>
      refine unread (readable ?_)
      unfold sourceText
      rw [givenText_of_mem inside distinct, Option.some_or]
  | environment absent present unread =>
      refine unread (readable ?_)
      unfold sourceText
      rw [(givenText_eq_none_iff given _).mpr absent, present, Option.none_or, Option.some_or]
  | nameless absent unset =>
      have missing : sourceText environment given .nodeName = none := by
        unfold sourceText
        rw [(givenText_eq_none_iff given _).mpr absent, Option.none_or]
        exact Option.or_eq_none_iff.mpr ⟨unset, rfl⟩
      obtain ⟨text, present, -⟩ := read.of_value (show arguments.value? .nodeName = some _ from rfl)
      rw [missing] at present
      cases present

theorem parse_eq_ok_iff (written : ∀ next ∈ given, next.IsWritten) (arguments : DaemonArguments) :
    parse environment ("daemon" :: given.flatMap Given.words) = .ok (.daemon arguments) ↔
      (given.map Given.flag).Nodup ∧ AreReadOf arguments.value? (sourceText environment given) := by
  have spec : Yields (parse environment _) _ _ := parse_spec written
  cases parsed : parse environment ("daemon" :: given.flatMap Given.words) with
  | error error =>
      rw [parsed] at spec
      exact ⟨nofun, fun ⟨distinct, read⟩ => absurd spec (not_isAmiss distinct read)⟩
  | ok invocation =>
      rw [parsed] at spec
      obtain ⟨distinct, other, rfl, read⟩ := spec
      constructor
      · rintro ⟨⟩
        exact ⟨distinct, read⟩
      · rintro ⟨-, read'⟩
        rw [value?_injective (read.unique read')]

theorem parse_succeeds (written : ∀ next ∈ given, next.IsWritten)
    (sound : ¬ IsAmiss environment given) : ∃ arguments,
      parse environment ("daemon" :: given.flatMap Given.words) = .ok (.daemon arguments) := by
  have spec : Yields (parse environment _) _ _ := parse_spec written
  cases parsed : parse environment ("daemon" :: given.flatMap Given.words) with
  | error error =>
      rw [parsed] at spec
      exact absurd spec sound
  | ok invocation =>
      rw [parsed] at spec
      obtain ⟨-, arguments, rfl, -⟩ := spec
      exact ⟨arguments, rfl⟩

theorem parse_fails (written : ∀ next ∈ given, next.IsWritten)
    (amiss : IsAmiss environment given) : ∃ error,
      parse environment ("daemon" :: given.flatMap Given.words) = .error error := by
  have spec : Yields (parse environment _) _ _ := parse_spec written
  cases parsed : parse environment ("daemon" :: given.flatMap Given.words) with
  | error error => exact ⟨error, rfl⟩
  | ok invocation =>
      rw [parsed] at spec
      obtain ⟨distinct, arguments, -, read⟩ := spec
      exact absurd amiss (not_isAmiss distinct read)

def Value.written : Value → String
  | .text s => s
  | .seconds n => Text.signedNumeral n

/-- What can be asked of the daemon: no path is empty, and the offset is a number of 64 bits. -/
structure DaemonArguments.AreSound (arguments : DaemonArguments) : Prop where
  paths : ∀ flag : Flag, flag.isPath = true → arguments.value? flag ≠ some (.text "")
  offset : -0x8000000000000000 ≤ arguments.handshakeOffset ∧
    arguments.handshakeOffset ≤ 0x7FFFFFFFFFFFFFFF

/-- Whether arguments are given in full, and the environment has nothing to add. -/
structure DaemonArguments.AreGiven (arguments : DaemonArguments)
    (environment : String → Option String) (given : List Given) : Prop where
  distinct : (given.map Given.flag).Nodup
  all : ∀ flag, givenText given flag = (arguments.value? flag).map Value.written
  silent : ∀ flag, arguments.value? flag = none → environmentText environment flag = none

theorem DaemonArguments.AreSound.reads_written {arguments : DaemonArguments}
    (sound : arguments.AreSound) {flag : Flag} {value : Value}
    (has : arguments.value? flag = some value) : flag.Reads value.written value := by
  unfold Flag.Reads
  split
  case isTrue offset =>
    subst offset
    cases has
    exact ⟨_, rfl, Text.writesSigned64_signedNumeral sound.offset⟩
  case isFalse other =>
    obtain ⟨text, rfl⟩ : ∃ text, value = .text text := by
      cases flag
      case handshakeOffset => exact absurd rfl other
      case chipName | kubeconfig | logPath =>
        obtain ⟨text, -, same⟩ := Option.map_eq_some_iff.mp has
        exact ⟨text, same.symm⟩
      all_goals exact ⟨_, (Option.some.inj has).symm⟩
    exact ⟨fun path empty => sound.paths flag path (has.trans (by rw [← empty]; rfl)), rfl⟩

theorem no_default_of_value?_eq_none {arguments : DaemonArguments} {flag : Flag}
    (absent : arguments.value? flag = none) : flag.default? = none := by
  cases flag <;> first | rfl | cases absent

theorem DaemonArguments.AreGiven.areReadOf {arguments : DaemonArguments}
    (are_given : arguments.AreGiven environment given) (sound : arguments.AreSound) :
    AreReadOf arguments.value? (sourceText environment given) := by
  intro flag
  unfold sourceText
  rw [are_given.all flag]
  cases has : arguments.value? flag with
  | none =>
      rw [are_given.silent flag has, no_default_of_value?_eq_none has]
      exact .none
  | some value => exact .some (sound.reads_written has)

/-- Flags in any order, each in one word or in two, are read as the values of their texts.  What is
not given comes from the environment, and else from the defaults.  A text that cannot be read, a
flag that is given twice and a node without a name are errors, and nothing else is one.  So
arguments that are given in full come back, whatever the environment has for their flags. -/
theorem daemon_arguments_come_back (environment : String → Option String) (given : List Given)
    (written : ∀ next ∈ given, next.IsWritten) :
    (∀ arguments : DaemonArguments, arguments.AreSound → arguments.AreGiven environment given →
      parse environment ("daemon" :: given.flatMap Given.words) = .ok (.daemon arguments)) ∧
    (∀ arguments : DaemonArguments,
      parse environment ("daemon" :: given.flatMap Given.words) = .ok (.daemon arguments) ↔
        (given.map Given.flag).Nodup ∧ AreReadOf arguments.value? (sourceText environment given)) ∧
    (¬ IsAmiss environment given → ∃ arguments,
      parse environment ("daemon" :: given.flatMap Given.words) = .ok (.daemon arguments)) ∧
    (IsAmiss environment given → ∃ error,
      parse environment ("daemon" :: given.flatMap Given.words) = .error error) := by
  refine ⟨fun arguments sound are_given => ?_, parse_eq_ok_iff written, ?_, ?_⟩
  · exact (parse_eq_ok_iff written arguments).mpr ⟨are_given.distinct, are_given.areReadOf sound⟩
  · exact parse_succeeds written
  · exact parse_fails written

end

private def fullLine : List Given :=
  [⟨.handshakeOffset, "-5", true⟩, ⟨.nodeName, "node-a", false⟩, ⟨.logPath, "/logs/a=b", true⟩,
    ⟨.kubeletSocket, "", true⟩, ⟨.configFile, "config.yaml", false⟩,
    ⟨.inventoryFile, "-", true⟩, ⟨.devicePluginDir, "plugins", false⟩]

private def otherNode (name : String) : Option String :=
  [("NODE_NAME", "node-b"), ("NPU_HANDSHAKE_OFFSET_SECS", "soon")].lookup name

theorem full_line_comes_back :
    (∀ next ∈ fullLine, next.IsWritten) ∧
    parse otherNode ["daemon", "--handshake-offset-secs=-5", "--node-name", "node-a",
      "--log-path=/logs/a=b", "--kubelet-socket=", "--config-file", "config.yaml",
      "--inventory-file=-", "--device-plugin-dir", "plugins"] =
      .ok (.daemon ⟨"config.yaml", "node-a", none, "-", "plugins", "", none, -5,
        some "/logs/a=b"⟩) := by
  have written : ∀ next ∈ fullLine, next.IsWritten := by decide
  refine ⟨written, (daemon_arguments_come_back otherNode fullLine written).1 _ ?_ ?_⟩
  · exact ⟨by intro flag; cases flag <;> decide, by decide⟩
  · exact ⟨by decide, by intro flag; cases flag <;> decide, by intro flag; cases flag <;> decide⟩

end CommandLine
end VirtualNpu
