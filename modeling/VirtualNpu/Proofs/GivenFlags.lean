import VirtualNpu.CommandLine.Invocation
import VirtualNpu.Proofs.SignedNumerals
import Mathlib.Data.List.Nodup

/-!
Flags that are given.  Each stands with its text in one word or in two, and the words are read as
the flags are set one after the other.
-/

namespace VirtualNpu
namespace CommandLine

/-! ### Results -/

def Yields {α : Type} (result : Except Error α) (good : α → Prop) (bad : Prop) : Prop :=
  match result with
  | .ok value => good value
  | .error _ => bad

section
variable {α β : Type} {result : Except Error α} {good : α → Prop} {bad : Prop}

theorem Yields.imp {good' : α → Prop} {bad' : Prop} (known : Yields result good bad)
    (succeeds : ∀ value, good value → good' value) (fails : bad → bad') :
    Yields result good' bad' := by
  cases result with
  | ok value => exact succeeds value known
  | error error => exact fails known

theorem Yields.bind {next : α → Except Error β} {good' : β → Prop} {bad' : Prop}
    (known : Yields result good bad) (fails : bad → bad')
    (succeeds : ∀ value, good value → Yields (next value) good' bad') :
    Yields (result.bind next) good' bad' := by
  cases result with
  | ok value => exact succeeds value known
  | error error => exact fails known

end

/-! ### Values -/

def Flag.Reads (flag : Flag) (text : String) (value : Value) : Prop :=
  if flag = .handshakeOffset then ∃ n, value = .seconds n ∧ Text.WritesSigned64 text n
  else (flag.isPath = true → text ≠ "") ∧ value = .text text

theorem read_eq_ok_iff (flag : Flag) (text : String) (value : Value) :
    flag.read text = .ok value ↔ flag.Reads text value := by
  unfold Flag.read Flag.Reads
  split
  · have seconds (n : Int) := Text.readSigned64_eq_ok_iff text n
    cases read : Text.readSigned64 text.toList with
    | ok n =>
        rw [read] at seconds
        constructor
        · rintro ⟨⟩
          exact ⟨n, rfl, (seconds n).mp rfl⟩
        · rintro ⟨m, rfl, writes⟩
          rw [Except.ok.inj ((seconds m).mpr writes)]
    | error error =>
        rw [read] at seconds
        refine ⟨nofun, ?_⟩
        rintro ⟨n, -, writes⟩
        cases (seconds n).mpr writes
  · by_cases empty : flag.isPath = true ∧ text = ""
    · obtain ⟨path, rfl⟩ := empty
      rw [path]
      exact ⟨nofun, fun ⟨filled, _⟩ => absurd rfl (filled rfl)⟩
    · have filled : flag.isPath = true → text ≠ "" := not_and.mp empty
      rw [if_neg (by simpa using empty)]
      exact ⟨fun same => ⟨filled, (Except.ok.inj same).symm⟩, fun ⟨_, same⟩ => congrArg _ same.symm⟩

theorem Flag.Reads.unique {flag : Flag} {text : String} {value other : Value}
    (reads : flag.Reads text value) (reads' : flag.Reads text other) : value = other := by
  rw [← read_eq_ok_iff] at reads reads'
  exact Except.ok.inj (reads.symm.trans reads')

def AreReadOf (values : Flag → Option Value) (texts : Flag → Option String) : Prop :=
  ∀ flag, Option.Rel flag.Reads (texts flag) (values flag)

section
variable {values : Flag → Option Value} {texts : Flag → Option String}

theorem AreReadOf.of_text (read : AreReadOf values texts) {flag : Flag} {text : String}
    (present : texts flag = some text) :
    ∃ value, values flag = some value ∧ flag.Reads text value := by
  have related := read flag
  rw [present] at related
  generalize values flag = value at related ⊢
  cases related with
  | some reads => exact ⟨_, rfl, reads⟩

theorem AreReadOf.of_value (read : AreReadOf values texts) {flag : Flag} {value : Value}
    (has : values flag = some value) : ∃ text, texts flag = some text ∧ flag.Reads text value := by
  have related := read flag
  rw [has] at related
  generalize texts flag = text at related ⊢
  cases related with
  | some reads => exact ⟨_, rfl, reads⟩

theorem AreReadOf.isSome_eq (read : AreReadOf values texts) (flag : Flag) :
    (values flag).isSome = (texts flag).isSome := by
  have related := read flag
  generalize texts flag = text at related ⊢
  generalize values flag = value at related ⊢
  cases related <;> rfl

theorem AreReadOf.unique {other : Flag → Option Value} (read : AreReadOf values texts)
    (read' : AreReadOf other texts) : values = other := by
  funext flag
  have alike := (read.isSome_eq flag).trans (read'.isSome_eq flag).symm
  cases here : values flag with
  | none =>
      rw [here] at alike
      exact (Option.isNone_iff_eq_none.mp (by simpa using alike.symm)).symm
  | some value =>
      obtain ⟨text, present, reads⟩ := read.of_value here
      obtain ⟨value', there, reads'⟩ := read'.of_text present
      rw [there, reads.unique reads']

end

/-! ### Settings -/

theorem areReadOf_nil : AreReadOf (Settings.find? []) fun _ => none := fun _ => .none

section
variable {settings : Settings} {texts : Flag → Option String}

theorem set_spec (holds : AreReadOf settings.find? texts) (flag : Flag) (text : String) :
    Yields (settings.set flag text)
      (fun after => (texts flag = none ∧ ∃ value, flag.Reads text value) ∧
        AreReadOf after.find? (Function.update texts flag (some text)))
      (¬ (texts flag = none ∧ ∃ value, flag.Reads text value)) := by
  unfold Settings.set
  rw [holds.isSome_eq]
  cases given : texts flag with
  | some other => exact fun unset => nomatch unset.1
  | none =>
      simp only [Option.isSome_none, Bool.false_eq_true, if_false]
      cases read : flag.read text with
      | error error =>
          rintro ⟨-, value, reads⟩
          rw [(read_eq_ok_iff flag text value).mpr reads] at read
          cases read
      | ok value =>
          have reads := (read_eq_ok_iff flag text value).mp read
          refine ⟨⟨trivial, value, reads⟩, fun other => ?_⟩
          change Option.Rel other.Reads _ (List.lookup other ((flag, value) :: settings))
          by_cases same : other = flag
          · subst same
            rw [Function.update_self, List.lookup_cons_self]
            exact .some reads
          · rw [Function.update_of_ne same, List.lookup_cons, beq_false_of_ne same]
            exact holds other

end

/-! ### Flags that are given -/

/-- A flag with the text of its value, as one word or as two. -/
structure Given where
  flag : Flag
  text : String
  joined : Bool

def Given.words (given : Given) : List String :=
  if given.joined then ["--" ++ given.flag.name ++ "=" ++ given.text]
  else ["--" ++ given.flag.name, given.text]

/-- A text that stands apart does not begin like a flag. -/
def Given.IsWritten (given : Given) : Prop :=
  given.joined = false → given.text.toList.head? ≠ some '-'

instance (given : Given) : Decidable given.IsWritten :=
  inferInstanceAs (Decidable (_ → _))

theorem ofText_alone (flag : Flag) :
    Argument.ofText ("--" ++ flag.name) = .long flag.name none := by
  cases flag <;> decide

/-- The first `=` ends the name, so that the text may hold any other. -/
theorem ofText_joined (flag : Flag) (text : String) :
    Argument.ofText ("--" ++ flag.name ++ "=" ++ text) = .long flag.name (some text) := by
  have named : ∀ c ∈ flag.name.toList, decide (c ≠ '=') = true := by
    refine List.all_eq_true.mp ?_
    cases flag <;> decide
  obtain ⟨c, rest, name⟩ : ∃ c rest, flag.name.toList = c :: rest := by
    cases flag <;> exact ⟨_, _, rfl⟩
  have chars : ("--" ++ flag.name ++ "=" ++ text).toList =
      '-' :: '-' :: (flag.name.toList ++ '=' :: text.toList) := by
    simp only [String.toList_append, List.append_assoc]
    rfl
  have long : Argument.ofText ("--" ++ flag.name ++ "=" ++ text) =
      splitLong (flag.name.toList ++ '=' :: text.toList) := by
    unfold Argument.ofText
    rw [chars, name]
    rfl
  rw [long, splitLong, List.takeWhile_append_of_pos named, List.dropWhile_append_of_pos named,
    List.takeWhile_cons_of_neg (by decide), List.dropWhile_cons_of_neg (by decide),
    List.append_nil, String.ofList_toList]
  exact congrArg (fun value => Argument.long flag.name (some value)) String.ofList_toList

theorem ofText_word {text : String} (plain : text.toList.head? ≠ some '-') :
    Argument.ofText text = .word text := by
  unfold Argument.ofText
  split
  · rename_i escape
    rw [escape] at plain
    exact absurd rfl plain
  · rename_i long
    rw [long] at plain
    exact absurd rfl plain
  · rename_i short
    rw [short] at plain
    exact absurd rfl plain
  · rfl

theorem find?_flag (flag : Flag) :
    Command.daemon.flags.find? (fun other => other.name = flag.name) = some flag := by
  cases flag <;> decide

def setAll (settings : Settings) (given : List Given) : Except Error Settings :=
  given.foldlM (fun settings next => settings.set next.flag next.text) settings

theorem run_cons (flags : List Flag) (scan : Scan) {word : String} (words : List String)
    (going : Argument.ofText word ≠ .escape) :
    Scan.run flags scan (word :: words) =
      (scan.take flags (Argument.ofText word)).bind fun after => Scan.run flags after words := by
  rw [Scan.run]
  · rfl
  · exact fun escape => absurd escape going
  · exact fun _ _ escape => absurd escape going

theorem run_long (scan : Scan) (flag : Flag) {word : String} {text : Option String}
    (words : List String) (long : Argument.ofText word = .long flag.name text) :
    Scan.run Command.daemon.flags scan (word :: words) =
      (scan.takeFlag flag text).bind fun after => Scan.run Command.daemon.flags after words := by
  have taken : scan.take Command.daemon.flags (.long flag.name text) = scan.takeFlag flag text := by
    simp only [Scan.take, find?_flag]
  rw [run_cons _ scan words (by rw [long]; nofun), long, taken]

theorem run_word (settings : Settings) (flag : Flag) {text : String} (words : List String)
    (plain : text.toList.head? ≠ some '-') :
    Scan.run Command.daemon.flags ⟨settings, some (flag, none)⟩ (text :: words) =
      Scan.run Command.daemon.flags ⟨settings, some (flag, some text)⟩ words := by
  have word := ofText_word plain
  rw [run_cons _ _ words (by rw [word]; nofun), word]
  rfl

/-- The words of flags that are given are read as the flags are set one after the other, however
each is written. -/
theorem run_given (given : List Given) (written : ∀ next ∈ given, next.IsWritten) (scan : Scan) :
    Scan.run Command.daemon.flags scan (given.flatMap Given.words) =
      scan.settle.bind fun settings => setAll settings given := by
  -- a text in a word of its own leaves its flag pending, so the scan is any, and is settled first
  induction given generalizing scan with
  | nil =>
      change scan.settle = _
      cases scan.settle <;> rfl
  | cons next given ih =>
      have later := ih fun other inside => written other (.tail _ inside)
      have plain := written next List.mem_cons_self
      obtain ⟨flag, text, joined⟩ := next
      rw [List.flatMap_cons]
      cases joined with
      | true =>
          change Scan.run _ scan (_ :: given.flatMap Given.words) = _
          rw [run_long scan flag _ (ofText_joined flag text)]
          unfold Scan.takeFlag setAll
          cases scan.settle with
          | error error => rfl
          | ok settings =>
              change ((settings.set flag text).bind fun after => .ok (Scan.mk after none)).bind _ =
                (settings.set flag text).bind _
              cases settings.set flag text with
              | error error => rfl
              | ok after => exact later ⟨after, none⟩
      | false =>
          change Scan.run _ scan (_ :: text :: given.flatMap Given.words) = _
          rw [run_long scan flag _ (ofText_alone flag)]
          unfold Scan.takeFlag
          cases scan.settle with
          | error error => rfl
          | ok settings =>
              change Scan.run _ ⟨settings, some (flag, none)⟩ (text :: _) = _
              rw [run_word settings flag _ (plain rfl)]
              exact later ⟨settings, some (flag, some text)⟩

/-! ### What is given -/

def givenText (given : List Given) (flag : Flag) : Option String :=
  (given.find? fun next => next.flag = flag).map Given.text

theorem givenText_cons (next : Given) (given : List Given) (flag : Flag) :
    givenText (next :: given) flag =
      if next.flag = flag then some next.text else givenText given flag := by
  unfold givenText
  rw [List.find?_cons]
  by_cases same : next.flag = flag
  · rw [decide_eq_true same, if_pos same]
    rfl
  · rw [decide_eq_false same, if_neg same]

theorem givenText_eq_none_iff (given : List Given) (flag : Flag) :
    givenText given flag = none ↔ flag ∉ given.map Given.flag := by
  unfold givenText
  rw [Option.map_eq_none_iff, List.find?_eq_none]
  simp

def AreFresh (texts : Flag → Option String) (given : List Given) : Prop :=
  (given.map Given.flag).Nodup ∧
    ∀ next ∈ given, texts next.flag = none ∧ ∃ value, next.flag.Reads next.text value

theorem areFresh_cons_iff (texts : Flag → Option String) (next : Given) (given : List Given) :
    AreFresh texts (next :: given) ↔
      (texts next.flag = none ∧ ∃ value, next.flag.Reads next.text value) ∧
        AreFresh (Function.update texts next.flag (some next.text)) given := by
  unfold AreFresh
  rw [List.map_cons, List.nodup_cons, List.forall_mem_cons]
  constructor
  · rintro ⟨⟨new, distinct⟩, first, rest⟩
    refine ⟨first, distinct, fun other inside => ?_⟩
    have apart : other.flag ≠ next.flag := fun same => new (same ▸ List.mem_map_of_mem inside)
    rw [Function.update_of_ne apart]
    exact rest other inside
  · rintro ⟨first, distinct, rest⟩
    have apart : ∀ other ∈ given, other.flag ≠ next.flag := by
      intro other inside same
      have unset := (rest other inside).1
      rw [same, Function.update_self] at unset
      cases unset
    refine ⟨⟨fun old => ?_, distinct⟩, first, fun other inside => ?_⟩
    · obtain ⟨other, inside, same⟩ := List.mem_map.mp old
      exact apart other inside same
    · have unset := rest other inside
      rwa [Function.update_of_ne (apart other inside)] at unset

theorem setAll_spec (given : List Given) {settings : Settings} {texts : Flag → Option String}
    (holds : AreReadOf settings.find? texts) :
    Yields (setAll settings given)
      (fun after => AreFresh texts given ∧
        AreReadOf after.find? fun flag => (givenText given flag).or (texts flag))
      (¬ AreFresh texts given) := by
  induction given generalizing settings texts with
  | nil => exact ⟨⟨List.nodup_nil, List.forall_mem_nil _⟩, holds⟩
  | cons next given ih =>
      rw [areFresh_cons_iff]
      refine (set_spec holds next.flag next.text).bind (mt And.left) ?_
      rintro between ⟨settable, held⟩
      refine (ih held).imp ?_ (mt And.right)
      rintro after ⟨fresh, held'⟩
      refine ⟨⟨settable, fresh⟩, ?_⟩
      have same : (fun flag => (givenText (next :: given) flag).or (texts flag)) =
          fun flag => (givenText given flag).or
            (Function.update texts next.flag (some next.text) flag) := by
        funext flag
        rw [givenText_cons]
        by_cases here : next.flag = flag
        · subst here
          have once : givenText given next.flag = none := by
            refine (givenText_eq_none_iff given _).mpr fun again => ?_
            obtain ⟨other, inside, same⟩ := List.mem_map.mp again
            have unset := (fresh.2 other inside).1
            rw [same, Function.update_self] at unset
            cases unset
          rw [if_pos rfl, once, Function.update_self]
          rfl
        · rw [if_neg here, Function.update_of_ne (Ne.symm here)]
      rw [same]
      exact held'

theorem givenText_of_mem {given : List Given} {next : Given} (inside : next ∈ given)
    (distinct : (given.map Given.flag).Nodup) : givenText given next.flag = some next.text := by
  obtain ⟨other, found⟩ : ∃ other, given.find? (fun other => other.flag = next.flag) =
      some other := by
    rw [← Option.isSome_iff_exists, List.find?_isSome]
    exact ⟨next, inside, decide_eq_true rfl⟩
  have same : other.flag = next.flag := by simpa using List.find?_some found
  unfold givenText
  rw [found, List.inj_on_of_nodup_map distinct (List.mem_of_find?_eq_some found) inside same]
  rfl

end CommandLine
end VirtualNpu
