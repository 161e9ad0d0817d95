import Mathlib.Data.List.Forall2
import Mathlib.Data.List.Perm.Basic
import RoleGuard.Files.Tree
import RoleGuard.Proofs.Paths
import RoleGuard.Proofs.Steps

/-! # Trees of Files

    A tree is given with the entries of each directory in some order, but
    what it holds is a matter of names:

    * **held**: names lead from an entry down to another one;
    * **sound**: the names in each directory are different, and each can be
      a part of a path, so names lead to one entry, and stepping along them
      leads there too;
    * **relisted**: the same tree with other orders inside of its
      directories. It holds the same, and a path leads to the same.
-/

namespace RoleGuard

namespace Entry

variable {e f g : Entry} {cs ds : List (String × Entry)} {names more : List String} {name : String}
  {content : List UInt8}

/-- The names lead from an entry down to an entry. -/
inductive Holds : Entry → List String → Entry → Prop where
  /-- no names lead to the entry itself -/
  | here (e : Entry) : Holds e [] e
  /-- the first name is one in the directory -/
  | further {cs : List (String × Entry)} {name : String} {names : List String} {e f : Entry}
      (hname : (name, e) ∈ cs) (hnames : Holds e names f) : Holds (directory cs) (name :: names) f

theorem holds_nil_iff : e.Holds [] f ↔ e = f := by
  constructor
  · rintro ⟨⟩
    rfl
  · rintro rfl
    exact .here e

theorem holds_cons_iff :
    e.Holds (name :: names) f ↔ ∃ e', (name, e') ∈ e.children ∧ e'.Holds names f := by
  constructor
  · rintro (_ | ⟨hname, hnames⟩)
    exact ⟨_, hname, hnames⟩
  · rintro ⟨e', hname, hnames⟩
    cases e with
    | file content => cases hname
    | directory cs => exact .further hname hnames

/-- Names lead on from where names lead. -/
theorem holds_append_iff :
    e.Holds (names ++ more) f ↔ ∃ e', e.Holds names e' ∧ e'.Holds more f := by
  induction names generalizing e with
  | nil => simp [holds_nil_iff]
  | cons name names ih => simp only [List.cons_append, holds_cons_iff, ih]; grind

instance (part : String) : Decidable (Path.IsPart part) :=
  decidable_of_iff
    (part.toList ≠ [] ∧ part.toList ≠ ['.'] ∧ Path.separator ∉ part.toList)
    ⟨fun h => ⟨h.1, h.2.1, h.2.2⟩, fun h => ⟨h.ne_nil, h.ne_point, h.noSeparator⟩⟩

/-- Names of entries that can be told apart, and that are found by a path. -/
structure ProperNames (names : List String) : Prop where
  /-- no two entries have the same name -/
  nodup : names.Nodup
  /-- each name is a part of a path -/
  isPart : ∀ name ∈ names, Path.IsPart name
  /-- no name leads up -/
  ne_up : ∀ name ∈ names, name ≠ ".."
  /-- files can have these names -/
  noNull : ∀ name ∈ names, '\x00' ∉ name.toList

instance (names : List String) : Decidable (ProperNames names) :=
  decidable_of_iff
    (names.Nodup ∧ (∀ name ∈ names, Path.IsPart name) ∧ (∀ name ∈ names, name ≠ "..")
      ∧ ∀ name ∈ names, '\x00' ∉ name.toList)
    ⟨fun h => ⟨h.1, h.2.1, h.2.2.1, h.2.2.2⟩, fun h => ⟨h.nodup, h.isPart, h.ne_up, h.noNull⟩⟩

theorem ProperNames.of_perm (h : ProperNames names) (hperm : names.Perm more) :
    ProperNames more :=
  ⟨hperm.nodup_iff.mp h.nodup, fun name hname => h.isPart name (hperm.mem_iff.mpr hname),
    fun name hname => h.ne_up name (hperm.mem_iff.mpr hname),
    fun name hname => h.noNull name (hperm.mem_iff.mpr hname)⟩

/-- The names in an entry. -/
def childNames (e : Entry) : List String :=
  e.children.map Prod.fst

/-- All directories of the tree have proper names. -/
def Sound (e : Entry) : Prop :=
  ∀ names f, e.Holds names f → ProperNames f.childNames

theorem Sound.of_holds (hsound : e.Sound) (h : e.Holds names f) : f.Sound :=
  fun _ g hg => hsound _ g (holds_append_iff.mpr ⟨f, h, hg⟩)

theorem Sound.properNames (hsound : e.Sound) : ProperNames e.childNames :=
  hsound [] e (.here e)

/-- A name is looked up to the one entry that has it. -/
theorem lookup_eq_some_iff (hnodup : (cs.map Prod.fst).Nodup) :
    cs.lookup name = some e ↔ (name, e) ∈ cs := by
  rw [List.lookup_eq_some_iff]
  constructor
  · rintro ⟨before, after, rfl, -⟩
    exact List.mem_append_right before List.mem_cons_self
  · intro hmem
    obtain ⟨before, after, rfl⟩ := List.mem_iff_append.mp hmem
    -- an entry before it with the same name would repeat the name
    refine ⟨before, after, rfl, fun c hc => ?_⟩
    rw [List.map_append, List.nodup_append] at hnodup
    rw [bne_iff_ne]
    exact (hnodup.2.2 _ (List.mem_map_of_mem hc) _ (by simp)).symm

/-! ## Orders inside of directories -/

/-- The tree with the entries of some directories in another order. -/
inductive Relisted : Entry → Entry → Prop where
  /-- all orders may stay -/
  | refl (e : Entry) : Relisted e e
  /-- the entries of a directory change places -/
  | order {cs ds : List (String × Entry)} (h : cs.Perm ds) : Relisted (directory cs) (directory ds)
  /-- an entry of a directory is relisted -/
  | inside {before after : List (String × Entry)} {name : String} {e f : Entry}
      (h : Relisted e f) :
      Relisted (directory (before ++ (name, e) :: after)) (directory (before ++ (name, f) :: after))
  /-- one after the other -/
  | trans {e f g : Entry} (h : Relisted e f) (h' : Relisted f g) : Relisted e g

namespace Relisted

theorem symm (h : Relisted e f) : Relisted f e := by
  induction h with
  | refl e => exact .refl e
  | order hperm => exact .order hperm.symm
  | inside _ ih => exact .inside ih
  | trans _ _ ih ih' => exact ih'.trans ih

theorem isDirectory_eq (h : Relisted e f) : e.isDirectory = f.isDirectory := by
  induction h with
  | refl e => rfl
  | order hperm => rfl
  | inside _ _ => rfl
  | trans _ _ ih ih' => exact ih.trans ih'

theorem childNames_perm (h : Relisted e f) : e.childNames.Perm f.childNames := by
  induction h with
  | refl e => exact .refl _
  | order hperm => exact hperm.map Prod.fst
  | inside _ _ => simp [childNames, children]
  | trans _ _ ih ih' => exact ih.trans ih'

theorem exists_mem_children (h : Relisted e f) {e' : Entry} (hmem : (name, e') ∈ e.children) :
    ∃ f', (name, f') ∈ f.children ∧ Relisted e' f' := by
  induction h generalizing e' with
  | refl e => exact ⟨e', hmem, .refl e'⟩
  | order hperm => exact ⟨e', hperm.mem_iff.mp hmem, .refl e'⟩
  | @inside before after name' e f hef _ =>
    simp only [children, List.mem_append, List.mem_cons, Prod.mk.injEq] at hmem ⊢
    -- the entry that was relisted, or one beside it
    rcases hmem with hmem | ⟨rfl, rfl⟩ | hmem
    · exact ⟨e', Or.inl hmem, .refl e'⟩
    · exact ⟨f, Or.inr (Or.inl ⟨rfl, rfl⟩), hef⟩
    · exact ⟨e', Or.inr (Or.inr hmem), .refl e'⟩
  | trans _ _ ih ih' =>
    obtain ⟨f', hf', hrelisted⟩ := ih hmem
    obtain ⟨g', hg', hrelisted'⟩ := ih' hf'
    exact ⟨g', hg', hrelisted.trans hrelisted'⟩

/-- **A relisted tree holds the same**, up to orders inside. -/
theorem exists_holds (h : Relisted e f) {e' : Entry} (hholds : e.Holds names e') :
    ∃ f', f.Holds names f' ∧ Relisted e' f' := by
  induction hholds generalizing f with
  | here e => exact ⟨f, .here f, h⟩
  | further hname _ ih =>
    obtain ⟨f', hf', hrelisted⟩ := h.exists_mem_children hname
    obtain ⟨g, hg, hrelisted'⟩ := ih hrelisted
    exact ⟨g, holds_cons_iff.mpr ⟨f', hf', hg⟩, hrelisted'⟩

theorem sound (h : Relisted e f) (hsound : e.Sound) : f.Sound := by
  intro names f' hf'
  obtain ⟨e', he', hrelisted⟩ := h.symm.exists_holds hf'
  exact (hsound names e' he').of_perm hrelisted.symm.childNames_perm

end Relisted

end Entry

/-! ## Paths through a tree -/

theorem forall_mem_of_forall₂ {α β : Type} {R : α → β → Prop} {P : α → Prop} {Q : β → Prop}
    {xs : List α} {ys : List β} (h : List.Forall₂ R xs ys) (hpass : ∀ x y, R x y → P x → Q y)
    (hxs : ∀ x ∈ xs, P x) : ∀ y ∈ ys, Q y := by
  induction h with
  | nil => exact List.forall_mem_nil _
  | cons hxy _ ih =>
    rw [List.forall_mem_cons] at hxs ⊢
    exact ⟨hpass _ _ hxy hxs.1, ih hxs.2⟩

namespace Position

variable {p p' q : Position} {part name : String} {parts names : List String} {e f : Entry}

/-- A sound entry, and sound directories above it. -/
structure Sound (p : Position) : Prop where
  /-- the entry is sound -/
  here : p.here.Sound
  /-- what is above is sound, and no file -/
  above : ∀ e ∈ p.above, e.Sound ∧ e.isDirectory = true

/-- The position in a relisted tree. -/
structure Relisted (p p' : Position) : Prop where
  /-- the entry is relisted -/
  here : p.here.Relisted p'.here
  /-- what is above is relisted -/
  above : List.Forall₂ Entry.Relisted p.above p'.above

/-- A step leads up, or to the entry with the name. From the root, it leads up to the root. -/
theorem step_eq_ok_iff (hsound : p.Sound) :
    p.step part = .ok q ↔ p.here.isDirectory = true ∧
      ((part = ".." ∧ (p.above = [] ∧ q = p ∨ ∃ e es, p.above = e :: es ∧ q = ⟨e, es⟩))
      ∨ part ≠ ".." ∧ ∃ e, (part, e) ∈ p.here.children ∧ q = ⟨e, p.here :: p.above⟩) := by
  obtain ⟨here, above⟩ := p
  cases here with
  | file content => simp [step, Entry.isDirectory, Entry.isFile]
  | directory cs =>
    have hlookup : ∀ e, cs.lookup part = some e ↔ (part, e) ∈ cs :=
      fun e => Entry.lookup_eq_some_iff hsound.here.properNames.nodup
    by_cases hup : part = ".."
    · cases above <;> simp [step, hup, Entry.isDirectory, Entry.isFile, eq_comm]
    · simp only [step, hup, Entry.isDirectory, Entry.isFile, Entry.children, if_false, ← hlookup]
      cases cs.lookup part <;> simp [hup, eq_comm]

theorem Sound.child (hsound : p.Sound) (hdir : p.here.isDirectory = true)
    (h : (name, e) ∈ p.here.children) : (⟨e, p.here :: p.above⟩ : Position).Sound := by
  have hhere : e.Sound := hsound.here.of_holds (Entry.holds_cons_iff.mpr ⟨e, h, .here e⟩)
  exact ⟨hhere, List.forall_mem_cons.mpr ⟨⟨hsound.here, hdir⟩, hsound.above⟩⟩

theorem Sound.step (hsound : p.Sound) (h : p.step part = .ok q) : q.Sound := by
  obtain ⟨hdir, ⟨-, ⟨-, rfl⟩ | ⟨e, es, habove, rfl⟩⟩ | ⟨-, e, he, rfl⟩⟩ :=
    (step_eq_ok_iff hsound).mp h
  · exact hsound
  · have hall := hsound.above
    rw [habove, List.forall_mem_cons] at hall
    exact ⟨hall.1.1, hall.2⟩
  · exact hsound.child hdir he

theorem Sound.steps (hsound : p.Sound) (h : parts.foldlM Position.step p = .ok q) : q.Sound := by
  induction parts generalizing p with
  | nil =>
    cases h
    exact hsound
  | cons part parts ih =>
    rw [List.foldlM_cons] at h
    obtain ⟨p', hstep, hrest⟩ := bind_eq_ok.mp h
    exact ih (hsound.step hstep) hrest

theorem Relisted.sound (h : p.Relisted p') (hsound : p.Sound) : p'.Sound := by
  refine ⟨h.here.sound hsound.here, ?_⟩
  refine forall_mem_of_forall₂ h.above (fun e f hrelisted he => ?_) hsound.above
  exact ⟨hrelisted.sound he.1, hrelisted.isDirectory_eq ▸ he.2⟩

/-- A step in a relisted tree leads to the same. -/
theorem Relisted.step (h : p.Relisted p') (hsound : p.Sound) (hstep : p.step part = .ok q) :
    ∃ q', p'.step part = .ok q' ∧ q.Relisted q' := by
  have hsound' := h.sound hsound
  obtain ⟨hdir, hcases⟩ := (step_eq_ok_iff hsound).mp hstep
  rw [h.here.isDirectory_eq] at hdir
  have habove := h.above
  rcases hcases with ⟨hup, ⟨hnone, rfl⟩ | ⟨e, es, hsome, rfl⟩⟩ | ⟨hname, e, he, rfl⟩
  · rw [hnone, List.forall₂_nil_left_iff] at habove
    exact ⟨p', (step_eq_ok_iff hsound').mpr ⟨hdir, Or.inl ⟨hup, Or.inl ⟨habove, rfl⟩⟩⟩, h⟩
  · rw [hsome, List.forall₂_cons_left_iff] at habove
    obtain ⟨e', es', he', hes', habove'⟩ := habove
    refine ⟨⟨e', es'⟩, (step_eq_ok_iff hsound').mpr ⟨hdir, Or.inl ⟨hup, Or.inr ?_⟩⟩, ⟨he', hes'⟩⟩
    exact ⟨e', es', habove', rfl⟩
  · obtain ⟨e', he', hrelisted⟩ := h.here.exists_mem_children he
    refine ⟨⟨e', p'.here :: p'.above⟩, (step_eq_ok_iff hsound').mpr ⟨hdir, Or.inr ?_⟩,
      ⟨hrelisted, .cons h.here habove⟩⟩
    exact ⟨hname, e', he', rfl⟩

theorem Relisted.steps (h : p.Relisted p') (hsound : p.Sound)
    (hsteps : parts.foldlM Position.step p = .ok q) :
    ∃ q', parts.foldlM Position.step p' = .ok q' ∧ q.Relisted q' := by
  induction parts generalizing p p' with
  | nil =>
    cases hsteps
    exact ⟨p', rfl, h⟩
  | cons part parts ih =>
    rw [List.foldlM_cons] at hsteps
    obtain ⟨p₁, hstep, hrest⟩ := bind_eq_ok.mp hsteps
    obtain ⟨p₁', hstep', h₁⟩ := h.step hsound hstep
    obtain ⟨q', hrest', hq⟩ := ih h₁ (hsound.step hstep) hrest
    exact ⟨q', bind_eq_ok.mpr ⟨p₁', hstep', hrest'⟩, hq⟩

end Position

namespace Disk

variable {disk : Disk} {root' : Entry} {base : Path} {p : Position} {names : List String}
  {content : List UInt8}

end Disk

end RoleGuard
