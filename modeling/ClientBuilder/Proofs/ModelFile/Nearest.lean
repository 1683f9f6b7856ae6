import ClientBuilder.ModelFile.Search
import Mathlib.Data.List.Infix

/-!
The search for a model file comes to the nearest one: the places looked at are a directory and the
nineteen above it, as far as there are any, and the first of them that holds the file decides. A
place that the system refuses to look at ends the search as well.
-/

namespace ClientBuilder

namespace FileTree

/-- A file stands at a place that names can lead to, and all places on the way are directories. -/
structure HasFile (t : FileTree) (place : List Text) : Prop where
  named : (Path.absolute place).fault? = none
  file : (t.node? place).any Node.isFile = true
  directories : ∀ q part, q ++ [part] <+: place → t.node? q = some .directory

/-- A directory in which a name is looked up. -/
structure Opens (t : FileTree) (place : List Text) (name : Text) : Prop where
  directory : t.node? place = some .directory
  searchable : place ∉ t.unsearchable
  short : Path.byteSize name ≤ 255

/-- A directory in which a name is not looked up, and why. -/
inductive Bars (t : FileTree) (place : List Text) (name : Text) : PathError → Prop where
  | forbidden (hd : t.node? place = some .directory) (hs : place ∈ t.unsearchable) :
      Bars t place name .forbidden
  | tooLong (hd : t.node? place = some .directory) (hs : place ∉ t.unsearchable)
      (hl : 255 < Path.byteSize name) : Bars t place name .tooLong

/-- The system refuses a place: its path is too long as a whole, or names that are looked up one
after another lead to one that is not. -/
inductive Refused (t : FileTree) (place : List Text) : PathError → Prop where
  | tooLong (hn : (Path.absolute place).fault? = none)
      (hl : 4095 < Path.byteSize (Path.absolute place).text) : Refused t place .tooLong
  | barred {q : List Text} {name : Text} {e : PathError}
      (hn : (Path.absolute place).fault? = none)
      (hl : Path.byteSize (Path.absolute place).text ≤ 4095) (hq : q ++ [name] <+: place)
      (hway : ∀ r next, r ++ [next] <+: q → t.Opens r next) (hb : t.Bars q name e) :
      Refused t place e

/-- The steps of a path are its first one, with nothing before it, and those of the rest. -/
theorem step_cons_iff {first part : Text} {rest q : List Text} :
    q ++ [part] <+: first :: rest ↔
      (q = [] ∧ part = first) ∨ ∃ s, q = first :: s ∧ s ++ [part] <+: rest := by
  cases q with
  | nil =>
    simp only [List.nil_append, List.cons_prefix_cons, List.nil_prefix, and_true, true_and,
      reduceCtorEq, false_and, exists_false, or_false]
  | cons a s =>
    simp only [List.cons_append, List.cons_prefix_cons, reduceCtorEq, false_and, List.cons.injEq,
      false_or, and_assoc]
    exact ⟨fun ⟨ha, hs⟩ => ⟨s, ha, rfl, hs⟩, fun ⟨_, ha, hs, hr⟩ => ⟨ha, hs ▸ hr⟩⟩

variable {t : FileTree}

theorem stepFrom_of_ne {part : Text} (h : part ≠ Path.parentStep) (place : List Text) :
    Path.stepFrom place part = place ++ [part] := by
  rw [Path.stepFrom, if_neg h, List.concat_eq_append]

/-- Where the next name is looked up, the walk goes on. -/
theorem walk_of_opens {place : List Text} {name : Text} (h : t.Opens place name)
    (r : List Text) : t.walk place (name :: r) = t.walk (Path.stepFrom place name) r := by
  have hshort : ¬ nameLimit < Path.byteSize name := Nat.not_lt.mpr h.short
  rw [walk, h.directory]
  dsimp only
  rw [if_neg h.searchable, if_neg hshort]

/-- Where it is not looked up, the walk ends in the reason for that. -/
theorem walk_of_bars {place : List Text} {name : Text} {e : PathError} (h : t.Bars place name e)
    (r : List Text) : t.walk place (name :: r) = .error e := by
  cases h with
  | forbidden hd hs =>
    rw [walk, hd]
    exact if_pos hs
  | tooLong hd hs hl =>
    have hlong : nameLimit < Path.byteSize name := hl
    rw [walk, hd]
    dsimp only
    rw [if_neg hs, if_pos hlong]

theorem walk_of_not_directory {place : List Text} (h : t.node? place ≠ some .directory)
    (name : Text) (r : List Text) : t.walk place (name :: r) = .ok none := by
  rw [walk]
  split
  · next hd => exact absurd hd h
  · rfl

/-- What a step can come to. -/
theorem step_cases (t : FileTree) (place : List Text) (name : Text) :
    t.Opens place name ∨ (∃ e, t.Bars place name e) ∨ t.node? place ≠ some .directory := by
  by_cases hd : t.node? place = some .directory
  · by_cases hs : place ∈ t.unsearchable
    · exact Or.inr (Or.inl ⟨_, .forbidden hd hs⟩)
    · rcases Nat.lt_or_ge nameLimit (Path.byteSize name) with hl | hl
      · exact Or.inr (Or.inl ⟨_, .tooLong hd hs hl⟩)
      · exact Or.inl ⟨hd, hs, hl⟩
  · exact Or.inr (Or.inr hd)

theorem Opens.not_bars {place : List Text} {name : Text} (h : t.Opens place name)
    (e : PathError) : ¬ t.Bars place name e := by
  rintro (⟨-, hs⟩ | ⟨-, -, hl⟩)
  · exact h.searchable hs
  · exact absurd h.short (Nat.not_le.mpr hl)

/-- A directory refuses a name for one reason only. -/
theorem Bars.unique {place : List Text} {name : Text} {e e' : PathError}
    (h : t.Bars place name e) (h' : t.Bars place name e') : e = e' := by
  cases h with
  | forbidden hd hs =>
    cases h' with
    | forbidden => rfl
    | tooLong _ hs' => exact absurd hs hs'
  | tooLong hd hs hl =>
    cases h' with
    | forbidden _ hs' => exact absurd hs' hs
    | tooLong => rfl

theorem Bars.directory {place : List Text} {name : Text} {e : PathError}
    (h : t.Bars place name e) : t.node? place = some .directory := by
  cases h <;> assumption

/-- A walk comes to its end iff each of its names is looked up. -/
theorem walk_eq_some_iff {parts : List Text} (h : Path.parentStep ∉ parts)
    (place destination : List Text) :
    t.walk place parts = .ok (some destination) ↔
      destination = place ++ parts ∧
        ∀ q name, q ++ [name] <+: parts → t.Opens (place ++ q) name := by
  induction parts generalizing place with
  | nil =>
    simp only [walk, Except.ok.injEq, Option.some.injEq, List.append_nil, List.prefix_nil,
      List.append_eq_nil_iff, List.cons_ne_nil, and_false, false_imp_iff, implies_true, and_true,
      @eq_comm _ place]
  | cons first rest ih =>
    rw [List.mem_cons, not_or] at h
    simp only [step_cons_iff]
    have hfirst (hall : ∀ q name, (q = [] ∧ name = first ∨
        ∃ s, q = first :: s ∧ s ++ [name] <+: rest) → t.Opens (place ++ q) name) :
        t.Opens place first := by
      have hopens := hall [] first (Or.inl ⟨rfl, rfl⟩)
      rwa [List.append_nil] at hopens
    rcases t.step_cases place first with ho | ⟨e, hb⟩ | hd
    · rw [walk_of_opens ho, stepFrom_of_ne (Ne.symm h.1), ih h.2, List.append_assoc,
        List.singleton_append]
      refine and_congr_right fun _ => ⟨?_, fun hall q name hq => ?_⟩
      · rintro hall q name (⟨rfl, rfl⟩ | ⟨s, rfl, hs⟩)
        · rwa [List.append_nil]
        · have hstep := hall s name hs
          rwa [List.append_assoc, List.singleton_append] at hstep
      · rw [List.append_assoc, List.singleton_append]
        exact hall (first :: q) name (Or.inr ⟨q, rfl, hq⟩)
    · rw [walk_of_bars hb]
      simp only [reduceCtorEq, false_iff, not_and]
      exact fun _ hall => (hfirst hall).not_bars e hb
    · rw [walk_of_not_directory hd]
      simp only [Except.ok.injEq, reduceCtorEq, false_iff, not_and]
      exact fun _ hall => hd (hfirst hall).directory

/-- A walk is stopped iff its names are looked up as far as one that is not. -/
theorem walk_eq_error_iff {parts : List Text} (h : Path.parentStep ∉ parts) (place : List Text)
    (e : PathError) :
    t.walk place parts = .error e ↔
      ∃ q name, q ++ [name] <+: parts ∧
        (∀ r next, r ++ [next] <+: q → t.Opens (place ++ r) next) ∧ t.Bars (place ++ q) name e := by
  induction parts generalizing place with
  | nil =>
    simp only [walk, reduceCtorEq, List.prefix_nil, List.append_eq_nil_iff, List.cons_ne_nil,
      and_false, false_and, exists_false]
  | cons first rest ih =>
    rw [List.mem_cons, not_or] at h
    simp only [step_cons_iff]
    -- A way that goes on behind the first name has that name looked up.
    have hfirst {s : List Text}
        (hway : ∀ r next, r ++ [next] <+: first :: s → t.Opens (place ++ r) next) :
        t.Opens place first := by
      have hopens := hway [] first (List.cons_prefix_cons.mpr ⟨rfl, List.nil_prefix⟩)
      rwa [List.append_nil] at hopens
    rcases t.step_cases place first with ho | ⟨e', hb⟩ | hd
    · rw [walk_of_opens ho, stepFrom_of_ne (Ne.symm h.1), ih h.2]
      constructor
      · rintro ⟨q, name, hq, hway, hb⟩
        rw [List.append_assoc, List.singleton_append] at hb
        refine ⟨first :: q, name, Or.inr ⟨q, rfl, hq⟩, fun r next hr => ?_, hb⟩
        rcases step_cons_iff.mp hr with ⟨rfl, rfl⟩ | ⟨s, rfl, hs⟩
        · rwa [List.append_nil]
        · have hopens := hway s next hs
          rwa [List.append_assoc, List.singleton_append] at hopens
      · rintro ⟨q, name, ⟨rfl, rfl⟩ | ⟨s, rfl, hs⟩, hway, hb⟩
        · rw [List.append_nil] at hb
          exact absurd hb (ho.not_bars e)
        · refine ⟨s, name, hs, fun r next hr => ?_, ?_⟩
          · rw [List.append_assoc, List.singleton_append]
            exact hway (first :: r) next (List.cons_prefix_cons.mpr ⟨rfl, hr⟩)
          · rwa [List.append_assoc, List.singleton_append]
    · rw [walk_of_bars hb]
      constructor
      · intro he
        obtain rfl := Except.error.inj he
        refine ⟨[], first, Or.inl ⟨rfl, rfl⟩, fun r next hr => ?_, ?_⟩
        · simp at hr
        · rwa [List.append_nil]
      · rintro ⟨q, name, ⟨rfl, rfl⟩ | ⟨s, rfl, -⟩, hway, hb'⟩
        · rw [List.append_nil] at hb'
          exact congrArg Except.error (hb.unique hb')
        · exact absurd hb ((hfirst hway).not_bars e')
    · rw [walk_of_not_directory hd]
      simp only [reduceCtorEq, false_iff, not_exists, not_and]
      rintro q name (⟨rfl, rfl⟩ | ⟨s, rfl, -⟩) hway hb
      · rw [List.append_nil] at hb
        exact hd hb.directory
      · exact hd (hfirst hway).directory

/-- A walk that leads nowhere has come to leave a place that is no directory. -/
theorem exists_of_walk_eq_none {parts : List Text} (h : Path.parentStep ∉ parts)
    {place : List Text} (hw : t.walk place parts = .ok none) :
    ∃ q name, q ++ [name] <+: parts ∧ t.node? (place ++ q) ≠ some .directory := by
  induction parts generalizing place with
  | nil => cases hw
  | cons first rest ih =>
    rw [List.mem_cons, not_or] at h
    simp only [step_cons_iff]
    rcases t.step_cases place first with ho | ⟨e, hb⟩ | hd
    · rw [walk_of_opens ho, stepFrom_of_ne (Ne.symm h.1)] at hw
      obtain ⟨q, name, hq, hnode⟩ := ih h.2 hw
      rw [List.append_assoc, List.singleton_append] at hnode
      exact ⟨first :: q, name, Or.inr ⟨q, rfl, hq⟩, hnode⟩
    · rw [walk_of_bars hb] at hw
      cases hw
    · exact ⟨[], first, Or.inl ⟨rfl, rfl⟩, by rwa [List.append_nil]⟩

section Look

variable {place : List Text}

theorem isFile_absolute (hn : (Path.absolute place).fault? = none)
    (hl : Path.byteSize (Path.absolute place).text ≤ pathLimit) :
    t.isFile (Path.absolute place) =
      (t.walk [] place).map fun found => (found.bind t.node?).any Node.isFile := by
  have hroot : (Path.absolute place).start t.workingDirectory = [] := rfl
  have hparts : (Path.absolute place).parts = place := rfl
  rw [isFile, find?, if_neg (by simp [hn]), if_neg (Nat.not_lt.mpr hl), hroot, hparts]
  cases t.walk [] place <;> rfl

theorem isFile_of_fault (hn : (Path.absolute place).fault? ≠ none) :
    t.isFile (Path.absolute place) = .ok false := by
  rw [isFile, find?, if_pos (Option.isSome_iff_ne_none.mpr hn)]
  rfl

theorem isFile_of_long (hn : (Path.absolute place).fault? = none)
    (hl : pathLimit < Path.byteSize (Path.absolute place).text) :
    t.isFile (Path.absolute place) = .error .tooLong := by
  rw [isFile, find?, if_neg (by simp [hn]), if_pos hl]
  rfl

variable (h : Path.parentStep ∉ place)
include h

/-- The test for a file fails just where the system refuses the place. -/
theorem isFile_eq_error_iff (e : PathError) :
    t.isFile (Path.absolute place) = .error e ↔ t.Refused place e := by
  constructor
  · intro he
    by_cases hn : (Path.absolute place).fault? = none
    · rcases Nat.lt_or_ge pathLimit (Path.byteSize (Path.absolute place).text) with hl | hl
      · rw [isFile_of_long hn hl] at he
        obtain rfl := Except.error.inj he
        exact .tooLong hn hl
      · rw [isFile_absolute hn hl] at he
        have hw : t.walk [] place = .error e := by
          cases hw : t.walk [] place with
          | error e' =>
            rw [hw] at he
            exact congrArg Except.error (Except.error.inj he)
          | ok found =>
            rw [hw] at he
            cases he
        obtain ⟨q, name, hq, hway, hb⟩ := (walk_eq_error_iff h [] e).mp hw
        exact .barred hn hl hq hway hb
    · rw [isFile_of_fault hn] at he
      cases he
  · intro hr
    cases hr with
    | tooLong hn hl => exact isFile_of_long hn hl
    | barred hn hl hq hway hb =>
      rw [isFile_absolute hn hl, (walk_eq_error_iff h [] e).mpr ⟨_, _, hq, hway, hb⟩]
      rfl

/-- The test for a file holds just where names lead to one. -/
theorem isFile_eq_true_iff :
    t.isFile (Path.absolute place) = .ok true ↔
      (∀ e, ¬ t.Refused place e) ∧ t.HasFile place := by
  constructor
  · intro htrue
    have hr : ∀ e, ¬ t.Refused place e := by
      intro e hr
      rw [(isFile_eq_error_iff h e).mpr hr] at htrue
      cases htrue
    have hn : (Path.absolute place).fault? = none := by
      by_contra hn
      rw [isFile_of_fault hn] at htrue
      cases htrue
    have hl : Path.byteSize (Path.absolute place).text ≤ pathLimit :=
      Nat.not_lt.mp fun hl => hr _ (.tooLong hn hl)
    rw [isFile_absolute hn hl] at htrue
    cases hw : t.walk [] place with
    | error e =>
      rw [hw] at htrue
      cases htrue
    | ok found =>
      rw [hw] at htrue
      cases found with
      | none => cases htrue
      | some destination =>
        obtain ⟨rfl, hopens⟩ := (walk_eq_some_iff h [] destination).mp hw
        exact ⟨hr, hn, Except.ok.inj htrue, fun q name hq => (hopens q name hq).directory⟩
  · rintro ⟨hr, hn, hf, hdirs⟩
    have hl : Path.byteSize (Path.absolute place).text ≤ pathLimit :=
      Nat.not_lt.mp fun hl => hr _ (.tooLong hn hl)
    rw [isFile_absolute hn hl]
    cases hw : t.walk [] place with
    | error e =>
      obtain ⟨q, name, hq, hway, hb⟩ := (walk_eq_error_iff h [] e).mp hw
      exact absurd (.barred hn hl hq hway hb) (hr e)
    | ok found =>
      cases found with
      | none =>
        obtain ⟨q, name, hq, hnode⟩ := exists_of_walk_eq_none h hw
        exact absurd (hdirs q name hq) hnode
      | some destination =>
        obtain ⟨rfl, -⟩ := (walk_eq_some_iff h [] destination).mp hw
        exact congrArg Except.ok hf

end Look

end FileTree

namespace ModelFile

def above (place : List Text) (steps : Nat) : List Text :=
  place.take (place.length - steps)

def filePlace (place : List Text) : List Text :=
  place.concat "service.yml"

def look (t : FileTree) (place : List Text) : Except PathError Bool :=
  t.isFile (Path.absolute (filePlace place))

/-- The search goes past a directory: it may look there, and there is no model file. -/
def Passed (t : FileTree) (place : List Text) : Prop :=
  (∀ e, ¬ t.Refused (filePlace place) e) ∧ ¬ t.HasFile (filePlace place)

def startPlace (t : FileTree) : Option Path → List Text
  | none => t.workingDirectory
  | some p => p.resolve t.workingDirectory

variable {t : FileTree} {place : List Text}

theorem above_zero (place : List Text) : above place 0 = place := by
  rw [above, Nat.sub_zero, List.take_length]

theorem above_dropLast (place : List Text) (k : Nat) :
    above place.dropLast k = above place (k + 1) := by
  have hmin : min (place.length - 1 - k) (place.length - 1) = place.length - (k + 1) := by
    omega
  rw [above, above, List.length_dropLast, List.dropLast_eq_take, List.take_take, hmin]

theorem parentStep_not_mem_filePlace (h : Path.parentStep ∉ place) (k : Nat) :
    Path.parentStep ∉ filePlace (above place k) := by
  rw [filePlace, List.concat_eq_append, List.mem_append, List.mem_singleton, not_or]
  exact ⟨fun hm => h (List.mem_of_mem_take hm), by decide⟩

theorem look_eq_error_iff (h : Path.parentStep ∉ place) (k : Nat) (e : PathError) :
    look t (above place k) = .error e ↔
      t.Refused (filePlace (above place k)) e :=
  FileTree.isFile_eq_error_iff (parentStep_not_mem_filePlace h k) e

theorem look_eq_true_iff (h : Path.parentStep ∉ place) (k : Nat) :
    look t (above place k) = .ok true ↔
      (∀ e, ¬ t.Refused (filePlace (above place k)) e) ∧ t.HasFile (filePlace (above place k)) :=
  FileTree.isFile_eq_true_iff (parentStep_not_mem_filePlace h k)

/-- A look into a directory that finds nothing lets the search go past it. -/
theorem look_eq_false_iff (h : Path.parentStep ∉ place) (k : Nat) :
    look t (above place k) = .ok false ↔ Passed t (above place k) := by
  have herror := look_eq_error_iff (t := t) h k
  have htrue := look_eq_true_iff (t := t) h k
  rw [Passed]
  cases hl : look t (above place k) with
  | error e =>
    have hr := (herror e).mp hl
    simp only [reduceCtorEq, false_iff, not_and]
    exact fun hall => absurd hr (hall e)
  | ok found =>
    rw [hl] at herror htrue
    have hr : ∀ e, ¬ t.Refused (filePlace (above place k)) e := by
      intro e hr
      cases (herror e).mpr hr
    cases found with
    | true => simp [(htrue.mp rfl).2]
    | false => simpa [hr] using htrue

/-- One step of the search. -/
theorem searchFrom_succ (t : FileTree) (limit : Nat) (place : List Text) :
    searchFrom t (limit + 1) place =
      match look t place with
      | .error e => .error e
      | .ok true => .ok (some (Path.absolute (filePlace place)))
      | .ok false => if place.isEmpty then .ok none else searchFrom t limit place.dropLast := by
  have hplace : filePlace place = place.concat fileName := rfl
  rw [searchFrom, look, hplace]
  rcases t.isFile (Path.absolute (place.concat fileName)) with e | _ | _
  · rfl
  · cases hp : place.isEmpty <;> simp [bind, Except.bind, pure, Except.pure]
  · rfl

/-- The search ends at the first place that it does not go past. -/
theorem searchFrom_of_first {limit k : Nat} (hk : k < limit) (hc : k ≤ place.length)
    (hpassed : ∀ j < k, look t (above place j) = .ok false)
    (hlook : look t (above place k) ≠ .ok false) :
    searchFrom t limit place =
      (look t (above place k)).map fun _ => some (Path.absolute (filePlace (above place k))) := by
  induction k generalizing limit place with
  | zero =>
    obtain ⟨limit, rfl⟩ := Nat.exists_eq_succ_of_ne_zero (Nat.ne_of_gt hk)
    rw [above_zero] at hlook ⊢
    rw [searchFrom_succ]
    rcases hl : look t place with e | _ | _
    · rfl
    · exact absurd hl hlook
    · rfl
  | succ k ih =>
    obtain ⟨limit, rfl⟩ := Nat.exists_eq_succ_of_ne_zero (Nat.ne_of_gt (Nat.zero_lt_of_lt hk))
    have hzero := hpassed 0 (Nat.succ_pos k)
    rw [above_zero] at hzero
    have hne : place.isEmpty = false := by
      cases place with
      | nil => exact absurd hc (Nat.not_succ_le_zero k)
      | cons a r => rfl
    rw [searchFrom_succ, hzero, hne]
    simp only [Bool.false_eq_true, if_false]
    rw [← above_dropLast] at hlook ⊢
    refine ih (Nat.lt_of_succ_lt_succ hk) ?_ (fun j hj => ?_) hlook
    · rw [List.length_dropLast]
      omega
    · rw [above_dropLast]
      exact hpassed (j + 1) (Nat.succ_lt_succ hj)

/-- The search comes to nothing if it goes past all places within its limit. -/
theorem searchFrom_of_passed {limit : Nat}
    (h : ∀ k < limit, k ≤ place.length → look t (above place k) = .ok false) :
    searchFrom t limit place = .ok none := by
  induction limit generalizing place with
  | zero => rfl
  | succ limit ih =>
    have hzero := h 0 (Nat.succ_pos limit) (Nat.zero_le _)
    rw [above_zero] at hzero
    rw [searchFrom_succ, hzero]
    cases place with
    | nil => rfl
    | cons a r =>
      refine ih fun k hk hc => ?_
      rw [above_dropLast]
      refine h (k + 1) (Nat.succ_lt_succ hk) ?_
      rw [List.length_dropLast, List.length_cons] at hc
      rw [List.length_cons]
      omega

theorem parentStep_not_mem_startPlace (h : Path.parentStep ∉ t.workingDirectory)
    (start : Option Path) : Path.parentStep ∉ startPlace t start := by
  have hstep (part : Text) {place : List Text} (hp : Path.parentStep ∉ place) :
      Path.parentStep ∉ Path.stepFrom place part := by
    by_cases he : part = Path.parentStep
    · rw [Path.stepFrom, if_pos he]
      exact fun hm => hp (List.mem_of_mem_dropLast hm)
    · rw [FileTree.stepFrom_of_ne he, List.mem_append, List.mem_singleton, not_or]
      exact ⟨hp, fun hm => he hm.symm⟩
  have hrow (parts : List Text) {place : List Text} (hp : Path.parentStep ∉ place) :
      Path.parentStep ∉ parts.foldl Path.stepFrom place := by
    induction parts generalizing place with
    | nil => exact hp
    | cons part rest ih => exact ih (hstep part hp)
  cases start with
  | none => exact h
  | some p =>
    refine hrow p.parts ?_
    rw [Path.start]
    split
    · exact List.not_mem_nil
    · exact h

/-- A search starts at the place that its path leads to. -/
theorem search_eq_searchFrom {start : Option Path} (h : ∀ p, start = some p → p.fault? = none) :
    search t start = searchFrom t searchLimit (startPlace t start) := by
  cases start with
  | none => rfl
  | some p =>
    rw [search, h p rfl]
    rfl

/-- Some steps above a directory there is a model file, and no nearer one. -/
structure IsNearest (t : FileTree) (place : List Text) (steps : Nat) : Prop where
  inReach : steps ≤ 19
  inChain : steps ≤ place.length
  file : t.HasFile (filePlace (above place steps))
  nearer : ∀ k < steps, ¬ t.HasFile (filePlace (above place k))

/-- Among the places within reach, either the search goes past all, or there is a first one that it
does not go past. -/
theorem passed_or_exists_first (t : FileTree) (place : List Text) (limit : Nat) :
    (∀ k < limit, k ≤ place.length → look t (above place k) = .ok false) ∨
      ∃ k < limit, k ≤ place.length ∧ look t (above place k) ≠ .ok false ∧
        ∀ j < k, look t (above place j) = .ok false := by
  induction limit with
  | zero => exact Or.inl fun k hk => absurd hk (Nat.not_lt_zero k)
  | succ limit ih =>
    rcases ih with hall | ⟨k, hk, hc, hlook, hfirst⟩
    · by_cases hlast : limit ≤ place.length ∧ look t (above place limit) ≠ .ok false
      · refine Or.inr ⟨limit, Nat.lt_succ_self limit, hlast.1, hlast.2, fun j hj => ?_⟩
        exact hall j hj (Nat.le_trans (Nat.le_of_lt hj) hlast.1)
      · refine Or.inl fun k hk hc => ?_
        rcases Nat.lt_succ_iff_lt_or_eq.mp hk with hk | rfl
        · exact hall k hk hc
        · by_contra hne
          exact hlast ⟨hc, hne⟩
    · exact Or.inr ⟨k, Nat.lt_succ_of_lt hk, hc, hlook, hfirst⟩

section Search

variable {start : Option Path} (hw : Path.parentStep ∉ t.workingDirectory)
  (hs : ∀ p, start = some p → p.fault? = none)
include hw hs

/-- Where the search goes past all nearer directories, the one at hand decides. -/
theorem search_of_passed {k : Nat} (hk : k ≤ 19) (hc : k ≤ (startPlace t start).length)
    (hpassed : ∀ j < k, Passed t (above (startPlace t start) j)) :
    (∀ e, t.Refused (filePlace (above (startPlace t start) k)) e → search t start = .error e) ∧
    ((∀ e, ¬ t.Refused (filePlace (above (startPlace t start) k)) e) →
      t.HasFile (filePlace (above (startPlace t start) k)) →
        search t start =
          .ok (some (Path.absolute (filePlace (above (startPlace t start) k))))) := by
  have hp := parentStep_not_mem_startPlace hw start
  have hlimit : k < searchLimit := Nat.lt_succ_of_le hk
  have hfalse : ∀ j < k, look t (above (startPlace t start) j) = .ok false := fun j hj =>
    (look_eq_false_iff hp j).mpr (hpassed j hj)
  rw [search_eq_searchFrom hs]
  constructor
  · intro e hr
    have hlook := (look_eq_error_iff hp k e).mpr hr
    rw [searchFrom_of_first hlimit hc hfalse (by rw [hlook]; exact nofun), hlook]
    rfl
  · intro hr hf
    have hlook := (look_eq_true_iff hp k).mpr ⟨hr, hf⟩
    rw [searchFrom_of_first hlimit hc hfalse (by rw [hlook]; decide), hlook]
    rfl

/-- The search goes past all places within its reach and comes to nothing, or it is decided by the
first place that it does not go past. -/
theorem search_cases :
    ((∀ k ≤ 19, k ≤ (startPlace t start).length → Passed t (above (startPlace t start) k)) ∧
      search t start = .ok none) ∨
    ∃ k ≤ 19, k ≤ (startPlace t start).length ∧
      (∀ j < k, Passed t (above (startPlace t start) j)) ∧
        ((∃ e, t.Refused (filePlace (above (startPlace t start) k)) e) ∨
          (∀ e, ¬ t.Refused (filePlace (above (startPlace t start) k)) e) ∧
            t.HasFile (filePlace (above (startPlace t start) k))) := by
  have hp := parentStep_not_mem_startPlace hw start
  rcases passed_or_exists_first t (startPlace t start) searchLimit with hall | hfirst
  · refine Or.inl ⟨fun k hk hc => ?_, ?_⟩
    · exact (look_eq_false_iff hp k).mp (hall k (Nat.lt_succ_of_le hk) hc)
    · rw [search_eq_searchFrom hs, searchFrom_of_passed hall]
  · obtain ⟨k, hk, hc, hlook, hfalse⟩ := hfirst
    refine Or.inr ⟨k, Nat.le_of_lt_succ hk, hc, fun j hj => ?_, ?_⟩
    · exact (look_eq_false_iff hp j).mp (hfalse j hj)
    · by_cases hr : ∃ e, t.Refused (filePlace (above (startPlace t start) k)) e
      · exact Or.inl hr
      · have hr' := not_exists.mp hr
        refine Or.inr ⟨hr', ?_⟩
        by_contra hf
        exact hlook ((look_eq_false_iff hp k).mpr ⟨hr', hf⟩)

/-- The search comes to the nearest model file within its reach, or to none if there is none there;
where the system refuses a place before that, it comes to the refusal. -/
theorem search_eq_nearest :
    (∀ p, search t start = .ok (some p) ↔ ∃ k, IsNearest t (startPlace t start) k ∧
      (∀ j ≤ k, ∀ e, ¬ t.Refused (filePlace (above (startPlace t start) j)) e) ∧
        p = Path.absolute (filePlace (above (startPlace t start) k))) ∧
    (search t start = .ok none ↔ ∀ k ≤ 19, k ≤ (startPlace t start).length →
      Passed t (above (startPlace t start) k)) ∧
    (∀ e, search t start = .error e ↔ ∃ k ≤ 19, k ≤ (startPlace t start).length ∧
      t.Refused (filePlace (above (startPlace t start) k)) e ∧
        ∀ j < k, Passed t (above (startPlace t start) j)) ∧
    ((∀ k e, ¬ t.Refused (filePlace (above (startPlace t start) k)) e) →
      (startPlace t start).length ≤ 19 →
        (∃ k ≤ (startPlace t start).length, t.HasFile (filePlace (above (startPlace t start) k))) →
          ∃ p, search t start = .ok (some p)) := by
  have hdecided := @search_of_passed t start hw hs
  have hcases := search_cases hw hs
  refine ⟨fun p => ⟨fun hsome => ?_, ?_⟩, ⟨fun hnone => ?_, fun hall => ?_⟩,
    fun e => ⟨fun herror => ?_, ?_⟩, fun hrefused hlength hfile => ?_⟩
  · rcases hcases with ⟨-, hnone⟩ | ⟨k, hk, hc, hpassed, ⟨e, hr⟩ | ⟨hr, hf⟩⟩
    · rw [hnone] at hsome
      cases hsome
    · rw [(hdecided hk hc hpassed).1 e hr] at hsome
      cases hsome
    · rw [(hdecided hk hc hpassed).2 hr hf] at hsome
      refine ⟨k, ⟨hk, hc, hf, fun j hj => (hpassed j hj).2⟩, fun j hj => ?_, ?_⟩
      · rcases Nat.lt_or_eq_of_le hj with hj | rfl
        · exact (hpassed j hj).1
        · exact hr
      · exact (Option.some.inj (Except.ok.inj hsome)).symm
  · rintro ⟨k, hk, hr, rfl⟩
    have hpassed : ∀ j < k, Passed t (above (startPlace t start) j) := fun j hj =>
      ⟨hr j (Nat.le_of_lt hj), hk.nearer j hj⟩
    exact (hdecided hk.inReach hk.inChain hpassed).2 (hr k (Nat.le_refl k)) hk.file
  · rcases hcases with ⟨hall, -⟩ | ⟨k, hk, hc, hpassed, ⟨e, hr⟩ | ⟨hr, hf⟩⟩
    · exact hall
    · rw [(hdecided hk hc hpassed).1 e hr] at hnone
      cases hnone
    · rw [(hdecided hk hc hpassed).2 hr hf] at hnone
      cases hnone
  · rcases hcases with ⟨-, hnone⟩ | ⟨k, hk, hc, -, ⟨e, hr⟩ | ⟨-, hf⟩⟩
    · exact hnone
    · exact absurd hr ((hall k hk hc).1 e)
    · exact absurd hf (hall k hk hc).2
  · rcases hcases with ⟨-, hnone⟩ | ⟨k, hk, hc, hpassed, ⟨e', hr⟩ | ⟨hr, hf⟩⟩
    · rw [hnone] at herror
      cases herror
    · rw [(hdecided hk hc hpassed).1 e' hr] at herror
      obtain rfl := Except.error.inj herror
      exact ⟨k, hk, hc, hr, hpassed⟩
    · rw [(hdecided hk hc hpassed).2 hr hf] at herror
      cases herror
  · rintro ⟨k, hk, hc, hr, hpassed⟩
    exact (hdecided hk hc hpassed).1 e hr
  · obtain ⟨k, hc, hf⟩ := hfile
    rcases hcases with ⟨hall, -⟩ | ⟨i, hi, hci, hpassed, ⟨e, hr⟩ | ⟨hr, hfi⟩⟩
    · exact absurd hf (hall k (Nat.le_trans hc hlength) hc).2
    · exact absurd hr (hrefused i e)
    · exact ⟨_, (hdecided hi hci hpassed).2 hr hfi⟩

end Search

def shadowTree : FileTree where
  nodes := [(["a", fileName, "b"], .directory), ([fileName], .file [])]
  workingDirectory := ["a"]

def closedTree : FileTree :=
  { shadowTree with unsearchable := [["a"]] }

/-- A directory of the name is passed over, and one that may not be searched ends the search. -/
theorem search_shadowTree :
    Path.parentStep ∉ shadowTree.workingDirectory ∧
      (∀ p, (none : Option Path) = some p → p.fault? = none) ∧
      (∃ k, IsNearest shadowTree ["a"] k ∧
        Path.absolute [fileName] = Path.absolute (filePlace (above ["a"] k))) ∧
      ∃ k ≤ 19, closedTree.Refused (filePlace (above ["a"] k)) .forbidden := by
  have hw : Path.parentStep ∉ shadowTree.workingDirectory := by decide
  have hs : ∀ p, (none : Option Path) = some p → p.fault? = none := by simp
  have hfound : search shadowTree none = .ok (some (Path.absolute [fileName])) := by decide
  have hclosed : search closedTree none = .error .forbidden := by decide
  obtain ⟨k, hk, -, hp⟩ := ((search_eq_nearest hw hs).1 _).mp hfound
  obtain ⟨i, hi, -, hr, -⟩ := ((search_eq_nearest (t := closedTree) hw hs).2.2.1 _).mp hclosed
  exact ⟨hw, hs, ⟨k, hk, hp⟩, i, hi, hr⟩

def deepPlace : List Text :=
  List.replicate 15 (List.replicate 255 (.char 'x')) ++ [List.replicate 250 (.char 'x')]

def deepTree : FileTree where
  nodes := [([fileName], .file [])]
  workingDirectory := deepPlace

/-- From a directory with a path that is nearly too long, the search does not come to the model file
above: the path that it would look at first is too long. -/
theorem search_deepTree :
    deepTree.node? deepPlace = some .directory ∧
      IsNearest deepTree (startPlace deepTree none) 16 ∧
        search deepTree none = .error .tooLong := by
  have hroot : filePlace (above (startPlace deepTree none) 16) = [Text.ofString fileName] := by
    decide +kernel
  have hfile : deepTree.HasFile [Text.ofString fileName] := by
    refine ⟨by decide, by decide +kernel, fun q part hq => ?_⟩
    rcases FileTree.step_cons_iff.mp hq with ⟨rfl, -⟩ | ⟨s, -, hs⟩
    · decide +kernel
    · simp at hs
  have hnone : ∀ k < 16,
      (deepTree.node? (filePlace (above (startPlace deepTree none) k))).any Node.isFile =
        false := by
    decide +kernel
  refine ⟨by decide +kernel, ⟨by decide, by decide +kernel, hroot ▸ hfile, fun k hk hf => ?_⟩,
    by decide +kernel⟩
  cases hf.file.symm.trans (hnone k hk)

end ModelFile

end ClientBuilder
