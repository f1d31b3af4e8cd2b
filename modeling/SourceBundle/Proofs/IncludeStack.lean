import SourceBundle.Proofs.IncludeGraph

/-! # The include stack — bundling with pushes and pops

    `resolveWithin` bundles as a program with one stack does: it pushes the file
    of a `#use`, bundles its content and pops it again, and it gives up where
    calls are nested deeper than it is allowed.  A refusal leaves the files on
    the stack, since nothing goes on behind it.

    A file is pushed only if it is not on the stack, and a device that can be read
    holds nothing, so nothing is pushed over it.  A stack therefore has no
    repetitions, and all below its top are regular files (`IsIncludeStack`).
    There are only so many of them, and a depth that exceeds their number by two
    is never used up (`resolution_ends`).  The device on top is one more than
    there are regular files (`stack_over_regularFiles`). -/

namespace SourceBundle

variable {fs : FileSystem} {o : BundleOptions} {α β : Type}

/-! ## The walk -/

/-- Where a walk stands. -/
structure Visit where
  /-- The files being bundled, outermost first. -/
  stack : List Location
  /-- The stack as each call so far found it. -/
  calls : List (List Location)
  deriving DecidableEq, Repr

/-- Why a walk stops early. -/
inductive Halt where
  | refused (cause : BundleError)
  /-- The calls are nested deeper than allowed. -/
  | tooDeep
  deriving DecidableEq, Repr

/-- A part of a walk. -/
abbrev StackWalk := EStateM Halt Visit

/-- A file is put on top of the stack. -/
def Visit.push (v : Visit) (place : Location) : Visit :=
  { v with stack := v.stack ++ [place] }

/-- The file on top of the stack is taken away. -/
def Visit.pop (v : Visit) : Visit := { v with stack := v.stack.dropLast }

/-- A call begins. -/
def Visit.noteCall (v : Visit) : Visit := { v with calls := v.calls ++ [v.stack] }

@[simp] theorem Visit.dropLast_push_stack (v : Visit) (place : Location) :
    (v.push place).stack.dropLast = v.stack := List.dropLast_concat

/-- Resolve one directive; `call` bundles the content of a file. -/
def visit (fs : FileSystem) (o : BundleOptions) (call : Bytes → StackWalk Bundle)
    (d : Directive) : StackWalk (Bytes × List String) :=
  match d.kind with
  | .link => return ([], [o.library d])
  | .inline =>
      match fs.openFile (o.includePath d) with
      | .error cause =>
          throw (.refused (.unreadableInclude (o.includePath d) d.line cause))
      | .ok (place, content) =>
          match o.mode with
          | .single => return (content, [])
          | .recursive => do
              let v ← get
              if v.stack.contains place then
                throw (.refused (.includeCycle ((v.stack ++ [place]).map Path.ofLocation)))
              else
                modify (·.push place)
                let nested ← call content
                modify Visit.pop
                return (nested.text, nested.libraries)

/-- Resolve the directives of a source in order. -/
def visitAll (fs : FileSystem) (o : BundleOptions) (call : Bytes → StackWalk Bundle) :
    List Directive → StackWalk Expansion
  | [] => return ⟨[], []⟩
  | d :: ds => do
      let out ← visit fs o call d
      let rest ← visitAll fs o call ds
      return rest.cons d out.1 out.2

/-- Bundle a source with calls nested to a depth at most. -/
def resolveWithin (fs : FileSystem) (o : BundleOptions) : Nat → Bytes → StackWalk Bundle
  | 0, _ => throw .tooDeep
  | depth + 1, source => do
      modify Visit.noteCall
      let e ← visitAll fs o (resolveWithin fs o depth) (scan source)
      return e.bundle source

/-- The settled bundle of a source. -/
def bundleWithin (fs : FileSystem) (o : BundleOptions) (depth : Nat)
    (source : Bytes) : StackWalk Bundle := do
  let bundle ← resolveWithin fs o depth source
  return o.settle bundle

/-- The bundle of a source that is no file. -/
def bundleSourceWithin (fs : FileSystem) (o : BundleOptions) (depth : Nat)
    (source : Bytes) : EStateM.Result Halt Visit Bundle :=
  (bundleWithin fs o depth source).run ⟨[], []⟩

/-- The bundle of the file at a path. -/
def bundleFileWithin (fs : FileSystem) (o : BundleOptions) (depth : Nat)
    (entry : Path) : EStateM.Result Halt Visit Bundle :=
  match fs.openFile entry with
  | .error cause => .error (.refused (.unreadableEntry entry cause)) ⟨[], []⟩
  | .ok (place, content) => (bundleWithin fs o depth content).run ⟨[place], []⟩

/-! ## One directive -/

/-- The end of a walk that has come to a result or to a refusal. -/
def ended (result : Except BundleError α) (v : Visit) : EStateM.Result Halt Visit α :=
  match result with
  | .ok a => .ok a v
  | .error cause => .error (.refused cause) v

/-- **A STEP**: a directive is resolved where the walk stands, in a result or a
    refusal, or by a call for a file that is not on the stack, with the file pushed
    before it and popped behind it. -/
theorem visit_cases (fs : FileSystem) (o : BundleOptions)
    (call : Bytes → StackWalk Bundle) (d : Directive) (v : Visit) :
    (visit fs o call d).run v = ended (resolve fs o v.stack d) v ∨
    ∃ place content, fs.openFile (o.includePath d) = .ok (place, content) ∧
      place ∉ v.stack ∧
      resolve fs o v.stack d
        = ((expand fs o (v.stack ++ [place]) (scan content)).map fun nested =>
          ((nested.bundle content).text, nested.libraries)) ∧
      (visit fs o call d).run v = match (call content).run (v.push place) with
        | .ok nested v' => .ok (nested.text, nested.libraries) v'.pop
        | .error halt v' => .error halt v' := by
  cases hkind : d.kind with
  | link =>
      left
      rw [resolve_link hkind]
      simp only [visit, hkind]
      rfl
  | inline =>
      cases hopen : fs.openFile (o.includePath d) with
      | error cause =>
          left
          rw [resolve_unreadable hkind hopen]
          simp only [visit, hkind, hopen]
          rfl
      | ok opened =>
          obtain ⟨place, content⟩ := opened
          cases hmode : o.mode with
          | single =>
              left
              rw [resolve_single hkind hopen hmode]
              simp only [visit, hkind, hopen, hmode]
              rfl
          | recursive =>
              simp only [visit, hkind, hopen, hmode, EStateM.run_bind, EStateM.run_get]
              by_cases hmem : place ∈ v.stack
              · left
                rw [resolve_cycle hkind hopen hmode hmem,
                  if_pos (List.contains_iff_mem.mpr hmem)]
                rfl
              · right
                have hfree : ¬ v.stack.contains place :=
                  fun h => hmem (List.contains_iff_mem.mp h)
                refine ⟨place, content, rfl, hmem, resolve_nested hkind hopen hmode hmem, ?_⟩
                simp only [if_neg hfree, EStateM.run_bind, EStateM.run_modify,
                  EStateM.run_pure]
                cases (call content).run (v.push place) <;> rfl

/-! ## What succeeds restores the stack -/

/-- Where the walk succeeds, the stack is as it was before. -/
def Restores (m : StackWalk α) : Prop :=
  ∀ v a v', m.run v = .ok a v' → v'.stack = v.stack

theorem restores_pure (a : α) : Restores (pure a) := by
  intro v a' v' h
  cases h
  rfl

theorem restores_throw (halt : Halt) : Restores (throw halt : StackWalk α) := by
  intro v a v' h
  cases h

theorem restores_noteCall : Restores (modify Visit.noteCall) := by
  intro v a v' h
  cases h
  rfl

/-- Two parts in a row restore the stack if each does. -/
theorem Restores.bind {m : StackWalk α} {f : α → StackWalk β} (hm : Restores m)
    (hf : ∀ a, Restores (f a)) : Restores (m >>= f) := by
  intro v b v' h
  rw [EStateM.run_bind] at h
  cases hv : m.run v with
  | ok a v₁ =>
      rw [hv] at h
      exact (hf a v₁ b v' h).trans (hm v a v₁ hv)
  | error halt v₁ =>
      rw [hv] at h
      cases h

/-- The file that a directive pushes is popped behind its call. -/
theorem restores_visit {call : Bytes → StackWalk Bundle}
    (hcall : ∀ content, Restores (call content)) (d : Directive) :
    Restores (visit fs o call d) := by
  intro v out v' h
  rcases visit_cases fs o call d v with hrun | ⟨place, content, -, -, -, hrun⟩
  · rw [hrun] at h
    cases hout : resolve fs o v.stack d with
    | ok out' =>
        rw [hout] at h
        cases h
        rfl
    | error cause =>
        rw [hout] at h
        cases h
  · rw [hrun] at h
    cases hv : (call content).run (v.push place) with
    | ok nested v₁ =>
        rw [hv] at h
        cases h
        show v₁.stack.dropLast = v.stack
        rw [hcall content _ _ _ hv, Visit.dropLast_push_stack]
    | error halt v₁ =>
        rw [hv] at h
        cases h

/-- A list of directives leaves the stack as it found it. -/
theorem restores_visitAll {call : Bytes → StackWalk Bundle}
    (hcall : ∀ content, Restores (call content)) (ds : List Directive) :
    Restores (visitAll fs o call ds) := by
  induction ds with
  | nil => exact restores_pure _
  | cons d ds ih =>
      exact (restores_visit hcall d).bind fun _ => ih.bind fun _ => restores_pure _

/-- **RESTORING**: a call that succeeds leaves the stack exactly as it found it. -/
theorem restores_resolveWithin (depth : Nat) (source : Bytes) :
    Restores (resolveWithin fs o depth source) := by
  induction depth generalizing source with
  | zero => exact restores_throw _
  | succ depth ih =>
      exact restores_noteCall.bind fun _ =>
        (restores_visitAll ih _).bind fun _ => restores_pure _

/-! ## Include stacks -/

/-- Does a regular file stand at the place? -/
def FileSystem.isRegular (fs : FileSystem) (place : Location) : Bool :=
  match fs.entryOf? place with
  | some (.file _ _) => true
  | _ => false

/-- The places of the regular files. -/
def FileSystem.regularFiles (fs : FileSystem) : Finset Location :=
  (fs.filePlaces.filter fs.isRegular).toFinset

/-- All regular files are counted. -/
theorem FileSystem.mem_regularFiles {place : Location} :
    place ∈ fs.regularFiles ↔ fs.isRegular place = true := by
  rw [FileSystem.regularFiles, List.mem_toFinset, List.mem_filter]
  constructor
  · exact And.right
  · intro h
    refine ⟨?_, h⟩
    unfold FileSystem.isRegular at h
    split at h
    · next hentry => exact fs.mem_filePlaces_of_entry? hentry
    · cases h

/-- What is opened is a regular file, or a device, and nothing is read from that. -/
theorem regular_or_device_of_openFile {p : Path} {place : Location} {content : Bytes}
    (hopen : fs.openFile p = .ok (place, content)) :
    fs.isRegular place = true ∨
      (∃ kind, fs.entryOf? place = some (.device kind)) ∧ content = [] := by
  obtain ⟨-, h⟩ := openFile_eq_ok_iff.mp hopen
  cases hentry : fs.entryOf? place with
  | none =>
      rw [FileSystem.contentAt?, hentry] at h
      cases h
  | some entry =>
      cases entry with
      | file bytes executable =>
          rw [FileSystem.isRegular, hentry]
          exact .inl rfl
      | device kind =>
          have hread := (FileSystem.contentAt?_of_device hentry content).mp h
          exact .inr ⟨⟨kind, rfl⟩, Device.eq_nil_of_read hread⟩
      | directory | link =>
          rw [FileSystem.contentAt?, hentry] at h
          cases h

/-- Whatever has directives to resolve is a regular file. -/
theorem isRegular_of_directives {p : Path} {place : Location} {content : Bytes}
    (hopen : fs.openFile p = .ok (place, content)) (hdirectives : scan content ≠ []) :
    fs.isRegular place = true := by
  refine (regular_or_device_of_openFile hopen).resolve_right ?_
  rintro ⟨-, rfl⟩
  exact hdirectives (by decide +kernel)

/-- What a call may find on the stack: places that paths lead to and that are
    read from, each once, and below the top regular files only. -/
structure IsIncludeStack (fs : FileSystem) (stack : List Location) : Prop where
  distinct : stack.Nodup
  opened : ∀ place ∈ stack, ∃ p content, fs.openFile p = .ok (place, content)
  regular : ∀ place ∈ stack.dropLast, fs.isRegular place = true

/-- A device is on top of the stack. -/
def FileSystem.DeviceOnTop (fs : FileSystem) (stack : List Location) : Prop :=
  ∃ place kind, stack.getLast? = some place ∧ fs.entryOf? place = some (.device kind)

/-- The stack is no longer than there are regular files, a device on top of it not
    counted. -/
def FileSystem.Bounds (fs : FileSystem) (stack : List Location) : Prop :=
  stack.length ≤ fs.regularFiles.card ∨
    fs.DeviceOnTop stack ∧ stack.length ≤ fs.regularFiles.card + 1

/-- A list of different regular files is no longer than there are any. -/
theorem length_le_regularFiles {stack : List Location} (hdistinct : stack.Nodup)
    (hregular : ∀ place ∈ stack, fs.isRegular place = true) :
    stack.length ≤ fs.regularFiles.card := by
  rw [← List.toFinset_card_of_nodup hdistinct]
  refine Finset.card_le_card ?_
  intro place hplace
  exact FileSystem.mem_regularFiles.mpr (hregular place (List.mem_toFinset.mp hplace))

namespace IsIncludeStack

theorem nil : IsIncludeStack fs [] :=
  ⟨List.nodup_nil, List.forall_mem_nil _, List.forall_mem_nil _⟩

/-- **A PUSH**: a file that is not on the stack is put on it, over regular files. -/
theorem push {stack : List Location} {p : Path} {place : Location} {content : Bytes}
    (h : IsIncludeStack fs stack) (hregular : ∀ place ∈ stack, fs.isRegular place = true)
    (hopen : fs.openFile p = .ok (place, content)) (hnew : place ∉ stack) :
    IsIncludeStack fs (stack ++ [place]) := by
  refine ⟨?_, ?_, ?_⟩
  · exact List.nodup_append_comm.mp (List.nodup_cons.mpr ⟨hnew, h.distinct⟩)
  · intro place' hplace'
    rcases List.mem_append.mp hplace' with hplace' | hplace'
    · exact h.opened place' hplace'
    · rw [List.mem_singleton.mp hplace']
      exact ⟨p, content, hopen⟩
  · rw [List.dropLast_concat]
    exact hregular

/-- **THE BOUND**: the places are distinct regular files, up to a device on top. -/
theorem bounded {stack : List Location} (h : IsIncludeStack fs stack) :
    fs.Bounds stack := by
  rcases List.eq_nil_or_concat' stack with rfl | ⟨below, place, rfl⟩
  · exact .inl (Nat.zero_le _)
  · have hbelow : ∀ place' ∈ below, fs.isRegular place' = true := by
      have hregular := h.regular
      rwa [List.dropLast_concat] at hregular
    by_cases htop : fs.isRegular place = true
    · refine .inl (length_le_regularFiles h.distinct ?_)
      intro place' hplace'
      rcases List.mem_append.mp hplace' with hplace' | hplace'
      · exact hbelow place' hplace'
      · rw [List.mem_singleton.mp hplace']
        exact htop
    · -- what can be read and is no regular file is a device
      obtain ⟨p, content, hopen⟩ := h.opened place (List.mem_append_right _ List.mem_cons_self)
      obtain ⟨⟨kind, hkind⟩, -⟩ := (regular_or_device_of_openFile hopen).resolve_left htop
      refine .inr ⟨⟨place, kind, List.getLast?_concat, hkind⟩, ?_⟩
      rw [List.length_append, List.length_singleton]
      exact Nat.succ_le_succ
        (length_le_regularFiles (List.nodup_append.mp h.distinct).1 hbelow)

theorem length_le {stack : List Location} (h : IsIncludeStack fs stack) :
    stack.length ≤ fs.regularFiles.card + 1 := by
  rcases h.bounded with hle | ⟨-, hle⟩
  · exact hle.trans (Nat.le_succ _)
  · exact hle

end IsIncludeStack

/-! ## The walk ends as the expansion does -/

/-- Each call so far found an include stack, within its bound. -/
def Visit.InOrder (fs : FileSystem) (v : Visit) : Prop :=
  ∀ stack ∈ v.calls, IsIncludeStack fs stack ∧ fs.Bounds stack

/-- A call that begins on an include stack is in order. -/
theorem Visit.InOrder.noteCall {v : Visit} (h : v.InOrder fs)
    (hstack : IsIncludeStack fs v.stack) : v.noteCall.InOrder fs := by
  refine List.forall_mem_append.mpr ⟨h, ?_⟩
  intro stack hmem
  rw [List.mem_singleton.mp hmem]
  exact ⟨hstack, hstack.bounded⟩

/-- From `v` on the walk comes to that result, and all its calls are in order. -/
def EndsAs (fs : FileSystem) (v : Visit) (m : StackWalk α)
    (result : Except BundleError α) : Prop :=
  ∃ v', m.run v = ended result v' ∧ v'.InOrder fs

theorem EndsAs.pure {v : Visit} (a : α) (h : v.InOrder fs) :
    EndsAs fs v (pure a) (.ok a) := ⟨v, rfl, h⟩

/-- One part after the other: the second begins on the stack the first began on. -/
theorem EndsAs.bind {v : Visit} {m : StackWalk α} {f : α → StackWalk β}
    {result : Except BundleError α} {g : α → Except BundleError β}
    (hm : EndsAs fs v m result) (hrestores : Restores m)
    (hf : ∀ a v', v'.stack = v.stack → v'.InOrder fs → EndsAs fs v' (f a) (g a)) :
    EndsAs fs v (m >>= f) (result.bind g) := by
  obtain ⟨v', hv', horder⟩ := hm
  unfold EndsAs
  rw [EStateM.run_bind, hv']
  cases result with
  | ok a => exact hf a v' (hrestores v a v' hv') horder
  | error cause => exact ⟨v', rfl, horder⟩

/-- What is made of a result is made of it behind the walk. -/
theorem EndsAs.map {v : Visit} {m : StackWalk α} {result : Except BundleError α}
    (hm : EndsAs fs v m result) (f : α → β) :
    EndsAs fs v (m >>= fun a => Pure.pure (f a)) (result.map f) := by
  obtain ⟨v', hv', horder⟩ := hm
  refine ⟨v', ?_, horder⟩
  rw [EStateM.run_bind, hv']
  cases result <;> rfl

/-- A call for the content of a file that is pushed ends as its expansion does. -/
def EndsNested (fs : FileSystem) (o : BundleOptions) (call : Bytes → StackWalk Bundle)
    (stack : List Location) : Prop :=
  ∀ p place content, fs.openFile p = .ok (place, content) → place ∉ stack →
    ∀ v : Visit, v.stack = stack ++ [place] → v.InOrder fs →
      EndsAs fs v (call content)
        ((expand fs o (stack ++ [place]) (scan content)).map (Expansion.bundle content))

/-- A directive ends as its resolution does, if the call for its file does. -/
theorem visit_endsAs {call : Bytes → StackWalk Bundle} {v : Visit} (d : Directive)
    (horder : v.InOrder fs) (hcall : EndsNested fs o call v.stack) :
    EndsAs fs v (visit fs o call d) (resolve fs o v.stack d) := by
  rcases visit_cases fs o call d v with
    hrun | ⟨place, content, hopen, hnew, hresolve, hrun⟩
  · exact ⟨v, hrun, horder⟩
  · obtain ⟨v', hv', horder'⟩ := hcall _ place content hopen hnew (v.push place) rfl horder
    rw [hv'] at hrun
    rw [hresolve]
    unfold EndsAs
    rw [hrun]
    cases expand fs o (v.stack ++ [place]) (scan content) with
    | ok nested => exact ⟨v'.pop, rfl, horder'⟩
    | error cause => exact ⟨v', rfl, horder'⟩

/-- A list of directives ends as its expansion does. -/
theorem visitAll_endsAs {call : Bytes → StackWalk Bundle} {v : Visit}
    (ds : List Directive) (horder : v.InOrder fs) (hcall : EndsNested fs o call v.stack)
    (hrestores : ∀ content, Restores (call content)) :
    EndsAs fs v (visitAll fs o call ds) (expand fs o v.stack ds) := by
  induction ds generalizing v with
  | nil =>
      rw [expand_nil]
      exact .pure _ horder
  | cons d ds ih =>
      rw [expand_cons]
      refine (visit_endsAs d horder hcall).bind (restores_visit hrestores d) ?_
      intro out v₁ hstack₁ horder₁
      rw [← hstack₁] at hcall ⊢
      exact (ih horder₁ hcall).map _

/-- **ENOUGH DEPTH**: with calls left for the files off the stack, a call ends as
    the expansion of its source does, in a result or in a refusal. -/
theorem resolveWithin_endsAs {depth : Nat} {source : Bytes} {v : Visit}
    (hdepth : fs.regularFiles.card + 2 ≤ v.stack.length + depth)
    (hstack : IsIncludeStack fs v.stack)
    (hregular : scan source ≠ [] → ∀ place ∈ v.stack, fs.isRegular place = true)
    (horder : v.InOrder fs) :
    EndsAs fs v (resolveWithin fs o depth source)
      ((expand fs o v.stack (scan source)).map (Expansion.bundle source)) := by
  induction depth generalizing source v with
  | zero =>
      have hle := hstack.length_le
      omega
  | succ depth ih =>
      have hnoted := horder.noteCall hstack
      have hvisited : EndsAs fs v.noteCall
          (visitAll fs o (resolveWithin fs o depth) (scan source))
          (expand fs o v.stack (scan source)) := by
        cases hscan : scan source with
        | nil =>
            rw [expand_nil]
            exact .pure _ hnoted
        | cons d ds =>
            -- a directive to resolve, so there is no device on the stack
            have hall := hregular (by rw [hscan]; exact List.cons_ne_nil d ds)
            refine visitAll_endsAs _ hnoted ?_ (restores_resolveWithin depth)
            intro p place content hopen hnew v' hv' horder'
            rw [← hv']
            refine ih ?_ ?_ ?_ horder'
            · rw [hv', List.length_append, List.length_singleton]
              show _ ≤ v.stack.length + 1 + depth
              omega
            · rw [hv']
              exact hstack.push hall hopen hnew
            · intro hdirectives
              rw [hv']
              refine List.forall_mem_append.mpr ⟨hall, ?_⟩
              intro place' hplace'
              rw [List.mem_singleton.mp hplace']
              exact isRegular_of_directives hopen hdirectives
      obtain ⟨v', hv', horder'⟩ := hvisited.map (Expansion.bundle source)
      refine ⟨v', ?_, horder'⟩
      rw [resolveWithin, EStateM.run_bind, EStateM.run_modify]
      exact hv'

/-! ## Whole runs -/

/-- The walk that has begun on an include stack ends as the bundling does. -/
theorem bundleWithin_ends {depth : Nat} {stack : List Location} {source : Bytes}
    (hdepth : fs.regularFiles.card + 2 ≤ stack.length + depth)
    (hstack : IsIncludeStack fs stack)
    (hregular : scan source ≠ [] → ∀ place ∈ stack, fs.isRegular place = true) :
    ∃ v, (bundleWithin fs o depth source).run ⟨stack, []⟩
        = ended (bundleFrom fs o stack source) v ∧ v.InOrder fs := by
  have hresolved := resolveWithin_endsAs (o := o) (v := ⟨stack, []⟩) hdepth hstack hregular
    (List.forall_mem_nil _)
  obtain ⟨v, hv, horder⟩ := hresolved.map o.settle
  have hsettled : ((expand fs o stack (scan source)).map (Expansion.bundle source)).map o.settle
      = bundleFrom fs o stack source := by
    unfold bundleFrom
    cases expand fs o stack (scan source) <;> rfl
  refine ⟨v, ?_, horder⟩
  rw [← hsettled]
  exact hv

/-- **RESOLUTION ENDS**: whatever cycles the include graph has, a bundling with one
    stack comes to the bundle or the error of `bundleSource` or `bundleFile`, and a
    depth of the number of regular files and two is never used up.  Every call finds
    on the stack places of existing files, each once, and no more of them than there
    are regular files, a device on top of them apart.  A call that succeeds, at any
    depth and on any stack, leaves the stack as it found it. -/
theorem resolution_ends (fs : FileSystem) (o : BundleOptions) (spare : Nat) :
    (∀ depth source v bundle v', (resolveWithin fs o depth source).run v = .ok bundle v' →
      v'.stack = v.stack) ∧
    (∀ source, ∃ v, bundleSourceWithin fs o (fs.regularFiles.card + 2 + spare) source
      = ended (bundleSource fs o source) v ∧ v.InOrder fs) ∧
    ∀ entry, ∃ v, bundleFileWithin fs o (fs.regularFiles.card + 2 + spare) entry
      = ended (bundleFile fs o entry) v ∧ v.InOrder fs := by
  refine ⟨fun depth source => restores_resolveWithin depth source, ?_, ?_⟩
  · intro source
    refine bundleWithin_ends ?_ .nil fun _ => List.forall_mem_nil _
    rw [List.length_nil]
    omega
  · intro entry
    unfold bundleFileWithin bundleFile
    cases hopen : fs.openFile entry with
    | error cause => exact ⟨⟨[], []⟩, rfl, List.forall_mem_nil _⟩
    | ok opened =>
        obtain ⟨place, content⟩ := opened
        refine bundleWithin_ends ?_ (IsIncludeStack.nil.push (List.forall_mem_nil _) hopen
          List.not_mem_nil) ?_
        · rw [List.length_singleton]
          omega
        · intro hdirectives place' hplace'
          rw [List.mem_singleton.mp hplace']
          exact isRegular_of_directives hopen hdirectives

/-- Where there is no regular file at all, an include of the null device is resolved with
    the device on the stack. -/
theorem stack_over_regularFiles : fromRoot.mode = .recursive ∧
    ∃ v, bundleSourceWithin nullDevice fromRoot 2 (Utf8.encode "#use \"/dev/null\";;")
        = .ok ⟨[], []⟩ v ∧
      ∃ stack ∈ v.calls, nullDevice.regularFiles.card < stack.length := by
  refine ⟨rfl, ⟨[], [[], [[Utf8.encode "dev", Utf8.encode "null"]]]⟩, ?_, ?_⟩
  · cbv
  · exact ⟨_, List.mem_cons_of_mem _ List.mem_cons_self, by decide +kernel⟩

/-- A refusal leaves the files on the stack that were pushed on the way to it. -/
example : bundleSourceWithin selfByLink fromRoot 3 (Utf8.encode "#use \"b\";;")
    = .error (.refused (.includeCycle [Path.ofText "/a", Path.ofText "/a"]))
        ⟨[[Utf8.encode "a"]], [[], [[Utf8.encode "a"]]]⟩ := by
  cbv

end SourceBundle
