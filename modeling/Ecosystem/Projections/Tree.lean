import Ecosystem.Lib.Checks
import Ecosystem.Lib.Dict
import Ecosystem.Lib.Program
import Ecosystem.Lib.Text

/-!
# The files of a repository

A tree of nodes under their paths, where whatever lies below a path makes that path a
directory.  A file holds a text, which is its UTF-8 encoding, or other bytes; a path is
no longer than 4096 bytes, and a file holds less than 2^63.  Whatever else goes wrong
with an access is a fault of the surroundings.
-/

namespace Ecosystem.Projections

open Ecosystem.Lib Ecosystem.Lib.Checks

/-! ## Contents and paths -/

inductive RawContent
  | utf8 (text : Text)
  | binary (bytes : List UInt8)
deriving DecidableEq

def byteSize (text : Text) : ℕ := (text.map Char.utf8Size).sum

def RawContent.size : RawContent → ℕ
  | .utf8 text => byteSize text
  | .binary bytes => bytes.length

abbrev Content := { c : RawContent // c.size < 2 ^ 63 }

abbrev Path := List Text

/-- `PurePosixPath(relative).parts`, of a relative path. -/
def components (relative : Text) : Path :=
  (relative.splitOn '/').filter fun part => part ≠ [] ∧ part ≠ ['.']

def isAbsolute (relative : Text) : Bool := relative.head? = some '/'

def asPosix (path : Path) : Text := ['/'].intercalate path

def pathMax : ℕ := 4096

def tooLong (path : Path) : Bool := pathMax < byteSize (asPosix path)

/-- A component as a path has them. -/
def IsComponent (part : Text) : Prop := part ≠ [] ∧ part ≠ ['.'] ∧ '/' ∉ part

theorem not_mem_splitOn {text part : Text} (h : part ∈ text.splitOn '/') : '/' ∉ part := by
  induction text generalizing part with
  | nil =>
    rw [List.splitOn_nil, List.mem_singleton] at h
    rw [h]
    exact List.not_mem_nil
  | cons c text ih =>
    rw [List.splitOn_cons_eq_if_modifyHead] at h
    by_cases hc : c = '/'
    · rw [if_pos (by simp [hc])] at h
      rcases List.mem_cons.mp h with rfl | h
      · exact List.not_mem_nil
      · exact ih h
    · rw [if_neg (by simp [hc])] at h
      cases hsplit : text.splitOn '/' with
      | nil => exact absurd hsplit (List.splitOn_ne_nil _ _)
      | cons first rest =>
        rw [hsplit, List.modifyHead_cons, List.mem_cons] at h
        rcases h with rfl | h
        · rw [List.mem_cons]
          rintro (heq | hmem)
          · exact hc heq.symm
          · exact ih (hsplit ▸ List.mem_cons_self ..) hmem
        · exact ih (hsplit ▸ List.mem_cons_of_mem _ h)

theorem components_isComponent {relative part : Text} (h : part ∈ components relative) :
    IsComponent part := by
  rw [components, List.mem_filter, decide_eq_true_eq] at h
  exact ⟨h.2.1, h.2.2, not_mem_splitOn h.1⟩

theorem components_asPosix {path : Path} (h : ∀ part ∈ path, IsComponent part) :
    components (asPosix path) = path := by
  cases path with
  | nil => rfl
  | cons part rest =>
    rw [components, asPosix, List.splitOn_intercalate _ (fun l hl => (h l hl).2.2) (by simp)]
    rw [List.filter_eq_self]
    intro l hl
    exact decide_eq_true ⟨(h l hl).1, (h l hl).2.1⟩

/-! ## Trees -/

inductive Node
  | directory
  /-- A regular file with one name. -/
  | file (content : Content)
  | symlink
  /-- A file with several names, a device or a socket. -/
  | special
deriving DecidableEq

/-- The root is a directory; whatever else is there is listed. -/
def lookupIn (nodes : Dict Path Node) (path : Path) : Option Node :=
  if path = [] then some .directory else nodes.lookup path

/-- A repository: what lies below a path makes it a directory. -/
structure Tree where
  nodes : Dict Path Node
  closed : ∀ p part, (nodes.lookup (p ++ [part])).isSome →
    lookupIn nodes p = some .directory

namespace Tree

def lookup (tree : Tree) (path : Path) : Option Node := lookupIn tree.nodes path

@[simp] theorem lookup_nil (tree : Tree) : tree.lookup [] = some .directory := by
  rw [lookup, lookupIn, if_pos rfl]

theorem lookup_of_ne {tree : Tree} {path : Path} (h : path ≠ []) :
    tree.lookup path = tree.nodes.lookup path := if_neg h

def put (tree : Tree) (path : Path) (node : Node) : Option Tree :=
  if h : tree.lookup path.dropLast = some .directory ∧
      tree.lookup path ≠ some .directory then
    some {
      nodes := tree.nodes.insert path node
      closed := by
        have hpath : path ≠ [] := by
          rintro rfl
          exact h.2 (lookup_nil tree)
        intro p part hsome
        rw [Dict.lookup_insert_ite] at hsome
        have hne : p ++ [part] ≠ [] := by simp
        by_cases hp : p = path
        · -- nothing lies below a path that is no directory
          rw [hp, if_neg (by simp)] at hsome
          exact absurd (tree.closed path part hsome) h.2
        · have hdir : tree.lookup p = some .directory := by
            by_cases hchild : p ++ [part] = path
            · have hparent := h.1
              rw [← hchild, List.dropLast_concat] at hparent
              exact hparent
            · rw [if_neg hchild] at hsome
              exact tree.closed p part hsome
          unfold lookup lookupIn at hdir
          unfold lookupIn
          rw [Dict.lookup_insert_ite, if_neg hp]
          exact hdir }
  else none

def hasChild (tree : Tree) (path : Path) : Bool :=
  decide (∃ q ∈ tree.nodes.keys, q ≠ [] ∧ q.dropLast = path)

def remove (tree : Tree) (path : Path) : Option Tree :=
  if h : path ≠ [] ∧ tree.hasChild path = false then
    some {
      nodes := tree.nodes.erase path
      closed := by
        intro p part hsome
        have hkeep : (tree.nodes.lookup (p ++ [part])).isSome := by
          by_cases heq : p ++ [part] = path
          · rw [heq, Finmap.lookup_erase] at hsome
            cases hsome
          · rwa [Finmap.lookup_erase_ne heq] at hsome
        have hne : p ≠ path := by
          rintro rfl
          have hchild := h.2
          rw [hasChild, decide_eq_false_iff_not] at hchild
          obtain ⟨node, hnode⟩ := Option.isSome_iff_exists.mp hkeep
          exact hchild ⟨p ++ [part], Dict.mem_keys_iff_lookup.mpr ⟨node, hnode⟩, by simp,
            List.dropLast_concat⟩
        have hdir := tree.closed p part hkeep
        unfold lookupIn at hdir ⊢
        rw [Finmap.lookup_erase_ne hne]
        exact hdir }
  else none

variable {tree tree' : Tree} {path : Path} {node : Node}

theorem put_eq_some (h : tree.put path node = some tree') :
    tree.lookup path ≠ some .directory ∧
      ∀ q, tree'.lookup q = if q = path then some node else tree.lookup q := by
  unfold put at h
  split at h
  · next hcond =>
      have h := Option.some.inj h
      subst h
      have hpath : path ≠ [] := by
        rintro rfl
        exact hcond.2 (lookup_nil tree)
      refine ⟨hcond.2, fun q => ?_⟩
      by_cases hq : q = []
      · rw [hq, lookup_nil, lookup_nil, if_neg hpath.symm]
      · rw [lookup_of_ne hq, lookup_of_ne hq]
        exact Dict.lookup_insert_ite
  · cases h

theorem put_isSome (hparent : tree.lookup path.dropLast = some .directory)
    (hdir : tree.lookup path ≠ some .directory) : ∃ tree', tree.put path node = some tree' := by
  unfold put
  rw [dif_pos ⟨hparent, hdir⟩]
  exact ⟨_, rfl⟩

theorem remove_eq_some (h : tree.remove path = some tree') :
    path ≠ [] ∧ ∀ q, tree'.lookup q = if q = path then none else tree.lookup q := by
  unfold remove at h
  split at h
  · next hcond =>
      have h := Option.some.inj h
      subst h
      refine ⟨hcond.1, fun q => ?_⟩
      by_cases hnil : q = []
      · rw [hnil, lookup_nil, lookup_nil, if_neg hcond.1.symm]
      · rw [lookup_of_ne hnil, lookup_of_ne hnil]
        by_cases hq : q = path
        · rw [if_pos hq, hq]
          exact Finmap.lookup_erase _ _
        · rw [if_neg hq]
          exact Finmap.lookup_erase_ne hq
  · cases h

theorem remove_isSome (hdir : tree.lookup path ≠ some .directory) :
    ∃ tree', tree.remove path = some tree' := by
  have hpath : path ≠ [] := by
    rintro rfl
    exact hdir (lookup_nil tree)
  have hchild : tree.hasChild path = false := by
    rw [hasChild, decide_eq_false_iff_not]
    rintro ⟨q, hq, hne, rfl⟩
    obtain ⟨node, hnode⟩ := Dict.mem_keys_iff_lookup.mp hq
    rw [← List.dropLast_append_getLast hne] at hnode
    exact hdir (tree.closed _ _ (Option.isSome_iff_exists.mpr ⟨node, hnode⟩))
  unfold remove
  rw [dif_pos ⟨hpath, hchild⟩]
  exact ⟨_, rfl⟩

theorem lookup_parent (h : (tree.lookup path).isSome) (hpath : path ≠ []) :
    tree.lookup path.dropLast = some .directory := by
  rw [lookup_of_ne hpath, ← List.dropLast_append_getLast hpath] at h
  exact tree.closed _ _ h

theorem lookup_above {q : Path} (h : (tree.lookup path).isSome) (hq : q <+: path)
    (hne : q ≠ path) : tree.lookup q = some .directory := by
  induction path using List.reverseRecOn with
  | nil => exact absurd (List.prefix_nil.mp hq) hne
  | append_singleton p part ih =>
    rcases List.prefix_concat_iff.mp hq with hq | hq
    · exact absurd hq hne
    · have hp := lookup_parent h (by simp)
      rw [List.dropLast_concat] at hp
      by_cases hqp : q = p
      · rw [hqp]
        exact hp
      · exact ih (by rw [hp]; rfl) hq hqp

end Tree

/-! ## Accesses -/

inductive Failure
  /-- `SurfaceConflict`. -/
  | surface (message : String)
  /-- `EcoError`. -/
  | eco (message : String)
  /-- An `OSError` of an access. -/
  | os

namespace Tree

/-- `mkdir(exist_ok=True)`. -/
def mkdir (tree : Tree) (path : Path) : Except Failure Tree :=
  match tree.lookup path with
  | some .directory => .ok tree
  | some _ => .error .os
  | none => expect .os (tree.put path .directory)

/-- `path.parent.mkdir(parents=True, exist_ok=True)`. -/
def mkParents (tree : Tree) (path : Path) : Except Failure Tree :=
  path.dropLast.inits.tail.foldlM mkdir tree

/-- `atomic_write_bytes`: the parents, then the file in the place of whatever the path
led to.  A directory is not replaced. -/
def atomicWrite (tree : Tree) (path : Path) (content : Content) : Except Failure Tree :=
  if tooLong path then .error .os
  else do
    let tree ← tree.mkParents path
    expect .os (tree.put path (.file content))

def unlink (tree : Tree) (path : Path) : Except Failure Tree :=
  match tree.lookup path with
  | some .directory | none => .error .os
  | some _ => expect .os (tree.remove path)

def rmdir (tree : Tree) (path : Path) : Except Failure Tree :=
  match tree.lookup path with
  | some .directory => expect .os (tree.remove path)
  | _ => .error .os

variable {tree tree' : Tree} {path : Path} {content : Content}

/-- What making directories leaves of a tree: every node, and some of the given paths
where there was nothing. -/
def MakesDirectories (paths : List Path) (tree tree' : Tree) : Prop :=
  ∀ q, tree'.lookup q = tree.lookup q ∨
    (tree.lookup q = none ∧ tree'.lookup q = some .directory ∧ q ∈ paths)

theorem mkdir_eq_ok (h : tree.mkdir path = .ok tree') : MakesDirectories [path] tree tree' := by
  unfold mkdir at h
  split at h
  · have h := Except.ok.inj h
    subst h
    exact fun _ => .inl rfl
  · cases h
  · next hnone =>
      rw [expect_eq_ok] at h
      obtain ⟨_, hlookup⟩ := put_eq_some h
      intro q
      by_cases hq : q = path
      · refine .inr ⟨hq ▸ hnone, ?_, List.mem_singleton.mpr hq⟩
        rw [hlookup, if_pos hq]
      · refine .inl ?_
        rw [hlookup, if_neg hq]

theorem foldlM_mkdir_eq_ok {paths : List Path} (h : paths.foldlM mkdir tree = .ok tree') :
    MakesDirectories paths tree tree' := by
  induction paths generalizing tree with
  | nil =>
    obtain rfl : tree = tree' := Except.ok.inj h
    exact fun _ => .inl rfl
  | cons p paths ih =>
    rw [List.foldlM_cons, bind_eq_ok] at h
    obtain ⟨middle, hmkdir, h⟩ := h
    intro q
    rcases mkdir_eq_ok hmkdir q with hq | ⟨hnone, hdir, hmem⟩
    · rw [← hq]
      rcases ih h q with hsame | ⟨hnone, hdir, hmem⟩
      · exact .inl hsame
      · exact .inr ⟨hnone, hdir, List.mem_cons_of_mem _ hmem⟩
    · rcases ih h q with hsame | ⟨hnone', _, _⟩
      · exact .inr ⟨hnone, hsame.trans hdir, by simp_all⟩
      · rw [hdir] at hnone'
        cases hnone'

theorem mem_tail_inits {p q : Path} (h : q ∈ p.inits.tail) : q <+: p ∧ q ≠ [] := by
  refine ⟨(List.mem_inits _ _).mp (List.mem_of_mem_tail h), ?_⟩
  cases p with
  | nil => cases h
  | cons part p =>
    rw [List.inits_cons, List.tail_cons] at h
    obtain ⟨q', _, rfl⟩ := List.mem_map.mp h
    exact List.cons_ne_nil _ _

theorem above_of_mem_inits {q : Path} (h : q ∈ path.dropLast.inits.tail) :
    q <+: path ∧ q ≠ path := by
  obtain ⟨hpre, hnil⟩ := mem_tail_inits h
  refine ⟨hpre.trans <| List.dropLast_prefix _, ?_⟩
  rintro rfl
  have hlength := hpre.length_le
  rw [List.length_dropLast] at hlength
  have := List.length_pos_iff.mpr hnil
  omega

/-- What a write leaves of a tree: the file, and the other nodes with the directories
made for it. -/
structure Wrote (tree tree' : Tree) (path : Path) (content : Content) : Prop where
  written : tree'.lookup path = some (.file content)
  others : ∀ q, q ≠ path → tree'.lookup q = tree.lookup q ∨
    (tree.lookup q = none ∧ tree'.lookup q = some .directory ∧ q <+: path)

theorem atomicWrite_eq_ok (h : tree.atomicWrite path content = .ok tree') :
    tooLong path = false ∧ Wrote tree tree' path content := by
  unfold atomicWrite at h
  by_cases hlong : tooLong path
  · rw [if_pos hlong] at h
    cases h
  · rw [if_neg hlong, bind_eq_ok] at h
    obtain ⟨middle, hparents, h⟩ := h
    rw [expect_eq_ok] at h
    have hmade := foldlM_mkdir_eq_ok hparents
    obtain ⟨_, hlookup⟩ := put_eq_some h
    refine ⟨Bool.eq_false_iff.mpr hlong, ?_, fun q hq => ?_⟩
    · rw [hlookup, if_pos rfl]
    · rw [hlookup, if_neg hq]
      rcases hmade q with hsame | ⟨hnone, hdir, hmem⟩
      · exact .inl hsame
      · exact .inr ⟨hnone, hdir, (above_of_mem_inits hmem).1⟩

theorem atomicWrite_file {old : Content} (hfile : tree.lookup path = some (.file old))
    (hlong : tooLong path = false) :
    ∃ tree', tree.atomicWrite path content = .ok tree' := by
  have hsome : (tree.lookup path).isSome := by
    rw [hfile]
    rfl
  have hpath : path ≠ [] := by
    rintro rfl
    rw [lookup_nil] at hfile
    cases hfile
  have hparents : tree.mkParents path = .ok tree := by
    have hdirs : ∀ q ∈ path.dropLast.inits.tail, tree.mkdir q = .ok tree := by
      intro q hq
      obtain ⟨hpre, hne⟩ := above_of_mem_inits hq
      unfold mkdir
      rw [lookup_above hsome hpre hne]
    unfold mkParents
    generalize path.dropLast.inits.tail = paths at hdirs
    induction paths with
    | nil => rfl
    | cons q paths ih =>
      rw [List.forall_mem_cons] at hdirs
      rw [List.foldlM_cons, hdirs.1]
      exact ih hdirs.2
  have hdir : tree.lookup path ≠ some .directory := by
    rw [hfile]
    exact fun h => nomatch h
  obtain ⟨tree', hput⟩ :=
    @put_isSome tree path (.file content) (lookup_parent hsome hpath) hdir
  refine ⟨tree', ?_⟩
  rw [atomicWrite, if_neg (by simp [hlong]), hparents]
  exact expect_eq_ok.mpr hput

theorem unlink_eq_ok (h : tree.unlink path = .ok tree') :
    ∀ q, tree'.lookup q = if q = path then none else tree.lookup q := by
  unfold unlink at h
  split at h
  · cases h
  · cases h
  · rw [expect_eq_ok] at h
    exact (remove_eq_some h).2

theorem unlink_file {old : Content} (hfile : tree.lookup path = some (.file old)) :
    ∃ tree', tree.unlink path = .ok tree' := by
  have hdir : tree.lookup path ≠ some .directory := by
    rw [hfile]
    exact fun h => nomatch h
  obtain ⟨tree', hremove⟩ := remove_isSome hdir
  refine ⟨tree', ?_⟩
  unfold unlink
  rw [hfile]
  exact expect_eq_ok.mpr hremove

theorem rmdir_eq_ok (h : tree.rmdir path = .ok tree') :
    tree.lookup path = some .directory ∧
      ∀ q, tree'.lookup q = if q = path then none else tree.lookup q := by
  unfold rmdir at h
  split at h
  · next hdir =>
      rw [expect_eq_ok] at h
      exact ⟨hdir, (remove_eq_some h).2⟩
  · cases h

end Tree

/-! ## Programs over a tree -/

abbrev Fault := Bool

abbrev FileProg := Prog Fault Tree Failure

variable {α : Type}

def inspect (read : Tree → Except Failure α) : FileProg α :=
  Prog.act fun fault tree => (if fault then .error .os else read tree, tree)

def change (edit : Tree → Except Failure Tree) : FileProg Unit :=
  Prog.act fun fault tree =>
    if fault then (.error .os, tree)
    else match edit tree with
      | .ok tree' => (.ok (), tree')
      | .error failure => (.error failure, tree)

/-- A part of a program that is left out unless a condition holds. -/
def whenever (c : Bool) (p : FileProg Unit) : FileProg Unit := if c then p else pure ()

section Safe

variable {admissible : Fault → Prop} {tree : Tree}

theorem safe_inspect {read : Tree → Except Failure α} {post : Prog.Post Tree Failure α}
    (hbetween : post.between tree) (hok : ∀ a, read tree = .ok a → post.returned a tree)
    (herror : ∀ e, post.raised e tree) :
    (inspect read).Safe admissible post tree := by
  refine Prog.safe_act hbetween ?_ ?_
  · intro fault a tree' _ h
    obtain ⟨ha, rfl⟩ := Prod.mk.inj h
    cases fault with
    | true => cases ha
    | false => exact hok a ha
  · intro fault e tree' _ h
    obtain ⟨_, rfl⟩ := Prod.mk.inj h
    exact herror e

theorem safe_change {edit : Tree → Except Failure Tree} {post : Prog.Post Tree Failure Unit}
    (hbetween : post.between tree)
    (hok : ∀ tree', edit tree = .ok tree' → post.returned () tree')
    (herror : ∀ e, post.raised e tree) :
    (change edit).Safe admissible post tree := by
  refine Prog.safe_act hbetween ?_ ?_
  · intro fault a tree' _ h
    cases fault with
    | true => cases (Prod.mk.inj h).1
    | false =>
      cases hedit : edit tree with
      | ok tree'' =>
        simp only [hedit] at h
        obtain ⟨_, rfl⟩ := Prod.mk.inj h
        exact hok _ hedit
      | error e =>
        simp only [hedit] at h
        cases (Prod.mk.inj h).1
  · intro fault e tree' _ h
    cases fault with
    | true =>
      obtain ⟨_, rfl⟩ := Prod.mk.inj h
      exact herror e
    | false =>
      cases hedit : edit tree with
      | ok tree'' =>
        simp only [hedit] at h
        cases (Prod.mk.inj h).1
      | error e' =>
        simp only [hedit] at h
        obtain ⟨_, rfl⟩ := Prod.mk.inj h
        exact herror e

end Safe

/-! ### What holds when a program returns -/

/-- Whatever the surroundings do, `Q` holds when the program returns. -/
def Returns (p : FileProg α) (Q : α → Tree → Prop) (tree : Tree) : Prop :=
  p.Safe (fun _ => True) ⟨fun _ => True, Q, fun _ _ => True⟩ tree

variable {β : Type} {tree : Tree}

variable {Q : α → Tree → Prop} {a : α} {p : FileProg α} {k : α → FileProg β}
  {read : Tree → Except Failure α} {edit : Tree → Except Failure Tree}
  {x : Except Failure α}

theorem returns_pure (h : Q a tree) :
    Returns (pure a) Q tree := h

theorem returns_bind {Q : β → Tree → Prop}
    (middle : α → Tree → Prop) (h : Returns p middle tree)
    (hk : ∀ a tree, middle a tree → Returns (k a) Q tree) : Returns (p >>= k) Q tree :=
  Prog.safe_bind h hk

theorem returns_inspect
    (h : ∀ a, read tree = .ok a → Q a tree) : Returns (inspect read) Q tree :=
  safe_inspect trivial h fun _ => trivial

theorem returns_change {Q : Unit → Tree → Prop}
    (h : ∀ tree', edit tree = .ok tree' → Q () tree') : Returns (change edit) Q tree :=
  safe_change trivial h fun _ => trivial

theorem returns_ofExcept
    (h : ∀ a, x = .ok a → Q a tree) : Returns (Prog.ofExcept x) Q tree :=
  Prog.safe_ofExcept h fun _ _ => trivial

theorem returns_whenever {c : Bool} {p : FileProg Unit} {Q : Unit → Tree → Prop}
    (h : c = true → Returns p Q tree) (hskip : c = false → Q () tree) :
    Returns (whenever c p) Q tree := by
  cases c with
  | true => exact h rfl
  | false => exact hskip rfl

theorem Returns.mono {Q Q' : α → Tree → Prop} (h : Returns p Q tree)
    (himp : ∀ a tree, Q a tree → Q' a tree) : Returns p Q' tree :=
  Prog.Safe.mono h (fun _ h => h) himp fun _ _ h => h

theorem Returns.and {Q Q' : α → Tree → Prop} (h : Returns p Q tree)
    (h' : Returns p Q' tree) : Returns p (fun a tree => Q a tree ∧ Q' a tree) tree :=
  Prog.Safe.mono (Prog.Safe.and h h') (fun _ _ => trivial) (fun _ _ h => h) fun _ _ _ => trivial

theorem Returns.run {p : FileProg α} {Q : α → Tree → Prop} (h : Returns p Q tree)
    {script : List Fault} {a : α} {tree' : Tree}
    (hrun : p.run script tree = (.returned a, tree')) : Q a tree' := by
  have hholds := @Prog.Safe.run _ _ _ _ _ _ _ _ h script fun _ _ => trivial
  rw [hrun] at hholds
  exact hholds

/-! ### What a program comes to without faults -/

/-- Where no access fails, a program returns, and `Q` holds. -/
def Succeeds (p : FileProg α) (Q : α → Tree → Prop) (tree : Tree) : Prop :=
  p.Safe (· = false) ⟨fun _ => True, Q, fun _ _ => False⟩ tree

theorem succeeds_pure (h : Q a tree) :
    Succeeds (pure a) Q tree := h

theorem succeeds_bind {Q : β → Tree → Prop}
    (middle : α → Tree → Prop) (h : Succeeds p middle tree)
    (hk : ∀ a tree, middle a tree → Succeeds (k a) Q tree) : Succeeds (p >>= k) Q tree :=
  Prog.safe_bind h hk

theorem succeeds_inspect
    (hread : read tree = .ok a) (h : Q a tree) : Succeeds (inspect read) Q tree := by
  refine ⟨trivial, fun fault hfault => ?_⟩
  subst hfault
  show (Prog.ofExcept (read tree)).Safe _ _ tree
  rw [hread]
  exact h

theorem succeeds_change {Q : Unit → Tree → Prop}
    {tree' : Tree} (hedit : edit tree = .ok tree') (h : Q () tree') :
    Succeeds (change edit) Q tree := by
  refine ⟨trivial, fun fault hfault => ?_⟩
  subst hfault
  simp only [Bool.false_eq_true, if_false, hedit]
  exact h

theorem succeeds_ofExcept
    (hx : x = .ok a) (h : Q a tree) : Succeeds (Prog.ofExcept x) Q tree := by
  rw [hx]
  exact h

theorem Succeeds.mono {Q Q' : α → Tree → Prop} (h : Succeeds p Q tree)
    (himp : ∀ a tree, Q a tree → Q' a tree) : Succeeds p Q' tree :=
  Prog.Safe.mono h (fun _ h => h) himp fun _ _ h => h

theorem Succeeds.complete {p : FileProg α} {Q : α → Tree → Prop} (h : Succeeds p Q tree) :
    ∃ a tree', p.complete (fun _ => false) tree = (.ok a, tree') ∧ Q a tree' := by
  have hholds := @Prog.Safe.complete _ _ _ _ _ _ _ _ h (fun _ => false) fun _ => rfl
  cases hrun : p.complete (fun _ => false) tree with
  | mk result tree' =>
    rw [hrun] at hholds
    cases result with
    | ok a => exact ⟨a, tree', rfl, hholds⟩
    | error e => exact hholds.elim

theorem Returns.complete {p : FileProg α} {Q : α → Tree → Prop} (h : Returns p Q tree)
    {a : α} {tree' : Tree} (hrun : p.complete (fun _ => false) tree = (.ok a, tree')) :
    Q a tree' := by
  have hholds := @Prog.Safe.complete _ _ _ _ _ _ _ _ h (fun _ => false) fun _ => trivial
  rw [hrun] at hholds
  exact hholds

/-! ### What holds all along -/

/-- `J` holds between any two steps of a program and at its end, however it ends. -/
def Keeps (J : Tree → Prop) (p : FileProg α) (tree : Tree) : Prop :=
  p.Safe (fun _ => True) ⟨J, fun _ => J, fun _ => J⟩ tree

variable {J : Tree → Prop}

theorem keeps_pure (h : J tree) : Keeps J (pure a : FileProg α) tree := h

theorem keeps_bind (middle : α → Tree → Prop)
    (h : Keeps J p tree) (hmiddle : Returns p middle tree)
    (hk : ∀ a tree, J tree → middle a tree → Keeps J (k a) tree) : Keeps J (p >>= k) tree :=
  @Prog.safe_bind _ _ _ _ _ _ _ _ _ _ (fun a tree => J tree ∧ middle a tree)
    (Prog.Safe.mono (Prog.Safe.and h hmiddle) (fun _ h => h.1) (fun _ _ h => h)
      fun _ _ h => h.1)
    fun a tree h => hk a tree h.1 h.2

theorem keeps_seq (h : Keeps J p tree)
    (hk : ∀ a tree, J tree → Keeps J (k a) tree) : Keeps J (p >>= k) tree :=
  Prog.safe_bind h hk

theorem keeps_inspect (h : J tree) : Keeps J (inspect read) tree :=
  safe_inspect h (fun _ _ => h) fun _ => h

theorem keeps_change (h : J tree)
    (hedit : ∀ tree', edit tree = .ok tree' → J tree') : Keeps J (change edit) tree :=
  safe_change h hedit fun _ => h

theorem keeps_ofExcept (h : J tree) : Keeps J (Prog.ofExcept x) tree :=
  Prog.safe_ofExcept (fun _ _ => h) fun _ _ => h

theorem keeps_whenever {c : Bool} {p : FileProg Unit} (h : J tree) (hp : Keeps J p tree) :
    Keeps J (whenever c p) tree := by
  cases c with
  | true => exact hp
  | false => exact h

theorem Keeps.mono {J' : Tree → Prop} (h : Keeps J p tree)
    (himp : ∀ tree, J tree → J' tree) : Keeps J' p tree :=
  Prog.Safe.mono h himp (fun _ => himp) fun _ => himp

theorem Keeps.run {p : FileProg α} (h : Keeps J p tree) (script : List Fault) :
    J (p.run script tree).2 := by
  have hholds := @Prog.Safe.run _ _ _ _ _ _ _ _ h script fun _ _ => trivial
  revert hholds
  cases (p.run script tree) with
  | mk ending tree' => cases ending <;> exact id

end Ecosystem.Projections
