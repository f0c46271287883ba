import MediaPipe.Jni.PacketRegistry

/-!
# Packet callbacks on several threads

The graph runs each packet callback on one of its own threads, so `CallbackToJava` calls on
different threads interleave.  `all_packets_mutex_` makes each `WrapPacketIntoContext` and
`RemovePacket` one atomic step, and a `GetPacketFromHandle` reads one object; a whole
callback is not atomic.  A thread here runs one `CallbackToJava`: it wraps its packets in
order (the packet, then the header packet), its Java callback reads its handles any number of
times and may wrap further packets into the graph (a copy of a packet it holds, or one it
made), and once the callback has returned the thread removes its handles in order.  The Java
code releases the packets it wrapped with `RemovePacket` when it likes, also after the
callback has returned.

Over every interleaving that goes on (`new` does not throw and nothing reads freed memory),
the handles the threads and their Java code own are live, hold their own packets and are
never shared, and every other address is as it was before the callbacks.  So every read of a
Java callback returns its own packet, every `RemovePacket` erases its key, a thread whose
packets are wrapped can always release its handles, and once every callback has released
its handles the registry is what it was before, but for the packets the Java code still
holds.
-/

namespace MediaPipe.Jni

/-- A thread in `CallbackToJava`. -/
structure CallbackThread where
  graph : Nat
  /-- The packets it has not wrapped yet. -/
  toWrap : List Packet
  /-- The handles it wrapped and has not removed, each with its packet, in order. -/
  held : List (Nat × Packet)
  /-- Whether its Java callback has returned. -/
  returned : Bool
  /-- The handles its Java code wrapped and has not released, each with its packet. -/
  copies : List (Nat × Packet)

/-- A thread about to run `CallbackToJava` on `packets` for the `Graph` at `graph`. -/
def CallbackThread.start (graph : Nat) (packets : List Packet) : CallbackThread :=
  ⟨graph, packets, [], false, []⟩

/-- The handles `CallbackToJava` holds. -/
def CallbackThread.handles (thread : CallbackThread) : List Nat :=
  thread.held.map Prod.fst

/-- Every handle the thread and its Java code own, with its packet. -/
def CallbackThread.entries (thread : CallbackThread) : List (Nat × Packet) :=
  thread.held ++ thread.copies

def CallbackThread.owned (thread : CallbackThread) : List Nat :=
  thread.entries.map Prod.fst

/-- What a thread does next, as the scheduler picks it. -/
inductive CallbackAction where
  /-- `WrapPacketIntoContext` of its next packet. -/
  | wrap
  /-- A `GetPacketFromHandle` of its Java callback, on one of its handles. -/
  | read (handle : Nat)
  /-- `RemovePacket` of its first handle, once everything is wrapped; the Java callback has
  then returned. -/
  | remove
  /-- A `WrapPacketIntoContext` of its Java callback into the graph. -/
  | javaWrap (packet : Packet)
  /-- A `RemovePacket` of its Java code on a handle it wrapped. -/
  | javaRelease (handle : Nat)
  deriving DecidableEq, Repr

/-- The registry call a thread makes for `action`, or `none` when it cannot take `action`
now. -/
def CallbackThread.call (thread : CallbackThread) : CallbackAction → Option RegistryCall
  | .wrap => thread.toWrap.head?.map (.wrapPacketIntoContext thread.graph)
  | .read handle =>
      if thread.toWrap = [] ∧ thread.returned = false ∧ handle ∈ thread.handles then
        some (.getPacketFromHandle handle)
      else none
  | .remove =>
      if thread.toWrap = [] then thread.held.head?.map fun entry => .removePacket entry.1
      else none
  | .javaWrap packet =>
      if thread.toWrap = [] ∧ thread.returned = false then
        some (.wrapPacketIntoContext thread.graph packet)
      else none
  | .javaRelease handle =>
      if handle ∈ thread.copies.map Prod.fst then some (.removePacket handle) else none

/-- The thread after its call returned `result`. -/
def CallbackThread.after (thread : CallbackThread) (result : RegistryResult) :
    CallbackAction → CallbackThread
  | .wrap =>
      match thread.toWrap, result with
      | packet :: rest, .handle handle =>
          { thread with toWrap := rest, held := thread.held ++ [(handle, packet)] }
      | _, _ => thread
  | .read _ => thread
  | .remove => { thread with held := thread.held.tail, returned := true }
  | .javaWrap packet =>
      match result with
      | .handle handle => { thread with copies := thread.copies ++ [(handle, packet)] }
      | _ => thread
  | .javaRelease handle =>
      { thread with copies := thread.copies.eraseP fun entry => entry.1 == handle }

/-- The packet registry and the threads in `CallbackToJava`, by index. -/
structure CallbackSystem where
  registry : PacketRegistry
  threads : Nat → CallbackThread

/-- One atomic step of the thread at `index`: the result of its call and the system after,
or `none` when it cannot take `action` now or its call does not go on. -/
def CallbackSystem.step (alloc : Allocator) (system : CallbackSystem) (index : Nat)
    (action : CallbackAction) : Option (RegistryResult × CallbackSystem) :=
  ((system.threads index).call action).bind fun call =>
    (system.registry.step alloc call).map fun next =>
      (next.1, ⟨next.2, Function.update system.threads index
        ((system.threads index).after next.1 action)⟩)

/-- The steps of a schedule, one after another. -/
def CallbackSystem.run (alloc : Allocator) :
    CallbackSystem → List (Nat × CallbackAction) → Option CallbackSystem
  | system, [] => some system
  | system, (index, action) :: schedule =>
      (system.step alloc index action).bind fun next => next.2.run alloc schedule

/-! ## What one step does -/

section Step

variable {alloc : Allocator} {system next : CallbackSystem} {index : Nat}
  {action : CallbackAction} {result : RegistryResult}

theorem CallbackSystem.step_eq_some
    (hstep : system.step alloc index action = some (result, next)) :
    ∃ call registry, (system.threads index).call action = some call ∧
      system.registry.step alloc call = some (result, registry) ∧
      next = ⟨registry, Function.update system.threads index
        ((system.threads index).after result action)⟩ := by
  obtain ⟨call, hcall, hnext⟩ := Option.bind_eq_some.mp hstep
  obtain ⟨⟨_, registry⟩, hregistry, heq⟩ := Option.map_eq_some'.mp hnext
  cases heq
  exact ⟨call, registry, hcall, hregistry, rfl⟩

theorem CallbackSystem.step_owned (howned : system.registry.Owned)
    (hstep : system.step alloc index action = some (result, next)) : next.registry.Owned := by
  obtain ⟨_, _, -, hregistry, rfl⟩ := CallbackSystem.step_eq_some hstep
  exact howned.step hregistry

/-- A wrap of `CallbackToJava` keys its next packet at a free address and hands the handle to
the thread. -/
theorem CallbackSystem.step_wrap (howned : system.registry.Owned)
    (hstep : system.step alloc index .wrap = some (result, next)) :
    ∃ packet rest handle, (system.threads index).toWrap = packet :: rest ∧
      system.registry.objects handle = none ∧
      next.registry.objects = Function.update system.registry.objects handle
        (some ⟨(system.threads index).graph, packet⟩) ∧
      next.threads = Function.update system.threads index { system.threads index with
        toWrap := rest, held := (system.threads index).held ++ [(handle, packet)] } := by
  obtain ⟨call, registry, hcall, hregistry, rfl⟩ := CallbackSystem.step_eq_some hstep
  obtain ⟨packet, hhead, rfl⟩ := Option.map_eq_some'.mp hcall
  obtain ⟨rest, hwrap⟩ := List.head?_eq_some_iff.mp hhead
  rcases howned.step_cases hregistry with ⟨_, _, handle, ⟨⟩, rfl, hfree, hobjects⟩ |
    ⟨_, _, ⟨⟩, -⟩ | ⟨_, _, ⟨⟩, -⟩
  exact ⟨packet, rest, handle, hwrap, hfree, hobjects, by simp only [CallbackThread.after, hwrap]⟩

/-- A read of a Java callback reads one of its thread's handles and changes nothing. -/
theorem CallbackSystem.step_read (howned : system.registry.Owned) {handle : Nat}
    (hstep : system.step alloc index (.read handle) = some (result, next)) :
    handle ∈ (system.threads index).handles ∧ next = system ∧
      ∃ object, system.registry.objects handle = some object ∧ result = .packet object.packet := by
  obtain ⟨call, registry, hcall, hregistry, rfl⟩ := CallbackSystem.step_eq_some hstep
  simp only [CallbackThread.call] at hcall
  split_ifs at hcall with hcan
  cases hcall
  rcases howned.step_cases hregistry with ⟨_, _, _, ⟨⟩, -⟩ |
    ⟨_, object, ⟨⟩, hobject, rfl, rfl⟩ | ⟨_, _, ⟨⟩, -⟩
  exact ⟨hcan.2.2, by simp [CallbackThread.after], object, hobject, rfl⟩

/-- A removal of `CallbackToJava` frees its thread's first handle and erases its key. -/
theorem CallbackSystem.step_remove (howned : system.registry.Owned)
    (hstep : system.step alloc index .remove = some (result, next)) :
    ∃ handle packet rest, (system.threads index).toWrap = [] ∧
      (system.threads index).held = (handle, packet) :: rest ∧ result = .removed true ∧
      next.registry.objects = Function.update system.registry.objects handle none ∧
      next.threads = Function.update system.threads index
        { system.threads index with held := rest, returned := true } := by
  obtain ⟨call, registry, hcall, hregistry, rfl⟩ := CallbackSystem.step_eq_some hstep
  simp only [CallbackThread.call] at hcall
  split_ifs at hcall with hwrapped
  obtain ⟨⟨handle, packet⟩, hhead, rfl⟩ := Option.map_eq_some'.mp hcall
  obtain ⟨rest, hheld⟩ := List.head?_eq_some_iff.mp hhead
  rcases howned.step_cases hregistry with ⟨_, _, _, ⟨⟩, -⟩ | ⟨_, _, ⟨⟩, -⟩ |
    ⟨_, _, ⟨⟩, -, rfl, hobjects⟩
  exact ⟨handle, packet, rest, hwrapped, hheld, rfl, hobjects,
    by simp only [CallbackThread.after, hheld, List.tail_cons]⟩

/-- A wrap of a Java callback keys its packet at a free address and hands the handle to the
Java code. -/
theorem CallbackSystem.step_javaWrap (howned : system.registry.Owned) {packet : Packet}
    (hstep : system.step alloc index (.javaWrap packet) = some (result, next)) :
    ∃ handle, system.registry.objects handle = none ∧
      next.registry.objects = Function.update system.registry.objects handle
        (some ⟨(system.threads index).graph, packet⟩) ∧
      next.threads = Function.update system.threads index { system.threads index with
        copies := (system.threads index).copies ++ [(handle, packet)] } := by
  obtain ⟨call, registry, hcall, hregistry, rfl⟩ := CallbackSystem.step_eq_some hstep
  simp only [CallbackThread.call] at hcall
  split_ifs at hcall
  cases hcall
  rcases howned.step_cases hregistry with ⟨_, _, handle, ⟨⟩, rfl, hfree, hobjects⟩ |
    ⟨_, _, ⟨⟩, -⟩ | ⟨_, _, ⟨⟩, -⟩
  exact ⟨handle, hfree, hobjects, rfl⟩

/-- A release of the Java code frees a handle it wrapped and erases its key. -/
theorem CallbackSystem.step_javaRelease (howned : system.registry.Owned) {handle : Nat}
    (hstep : system.step alloc index (.javaRelease handle) = some (result, next)) :
    handle ∈ (system.threads index).copies.map Prod.fst ∧ result = .removed true ∧
      next.registry.objects = Function.update system.registry.objects handle none ∧
      next.threads = Function.update system.threads index { system.threads index with
        copies := (system.threads index).copies.eraseP fun entry => entry.1 == handle } := by
  obtain ⟨call, registry, hcall, hregistry, rfl⟩ := CallbackSystem.step_eq_some hstep
  simp only [CallbackThread.call] at hcall
  split_ifs at hcall with hmem
  cases hcall
  rcases howned.step_cases hregistry with ⟨_, _, _, ⟨⟩, -⟩ | ⟨_, _, ⟨⟩, -⟩ |
    ⟨_, _, ⟨⟩, -, rfl, hobjects⟩
  exact ⟨hmem, rfl, hobjects, rfl⟩

/-- A step that replaces one thread by one of the same graph keeps every thread's graph. -/
theorem CallbackSystem.graph_eq_of_update {thread : CallbackThread}
    (hthreads : next.threads = Function.update system.threads index thread)
    (hgraph : thread.graph = (system.threads index).graph) (other : Nat) :
    (next.threads other).graph = (system.threads other).graph := by
  rw [hthreads, Function.update_apply]
  split_ifs with hother
  · rw [hother, hgraph]
  · rfl

/-- A property every step keeps holds after every schedule. -/
theorem CallbackSystem.run_invariant (motive : CallbackSystem → Prop)
    (hstep : ∀ {system index action result next}, motive system →
      system.step alloc index action = some (result, next) → motive next)
    {schedule : List (Nat × CallbackAction)} {final : CallbackSystem} (hsystem : motive system)
    (hrun : system.run alloc schedule = some final) : motive final := by
  induction schedule generalizing system with
  | nil =>
      cases hrun
      exact hsystem
  | cons entry schedule ih =>
      obtain ⟨next, hnext, hrest⟩ := Option.bind_eq_some.mp hrun
      exact ih (hstep hsystem hnext) hrest

end Step

/-- Releasing a handle the Java code wrapped takes one entry of that handle out of the
thread's entries. -/
theorem CallbackThread.entries_perm_eraseP (thread : CallbackThread) {handle : Nat}
    (hmem : handle ∈ thread.copies.map Prod.fst) :
    ∃ packet, List.Perm thread.entries ((handle, packet) ::
      { thread with copies := thread.copies.eraseP fun entry => entry.1 == handle }.entries) := by
  obtain ⟨entry, hentry, hhandle⟩ := List.mem_map.mp hmem
  obtain ⟨⟨key, found⟩, before, after, -, hkey, hcopies, herase⟩ :=
    @List.exists_of_eraseP _ (fun entry => entry.1 == handle) _ _ hentry (by simp [hhandle])
  simp only [beq_iff_eq] at hkey
  subst hkey
  refine ⟨found, ?_⟩
  show List.Perm (thread.held ++ thread.copies) ((key, found) :: (thread.held ++ _))
  rw [herase, hcopies, ← List.append_assoc, ← List.append_assoc]
  exact List.perm_middle

/-! ## The threads' handles over every interleaving -/

/-- The handles the threads and their Java code own are live and hold their own packets, no
handle is owned twice, and every other address is as in `initial`, where no owned handle had
an object. -/
structure CallbackSystem.Safe (initial : PacketRegistry) (system : CallbackSystem) : Prop where
  owned : system.registry.Owned
  live : ∀ index entry, entry ∈ (system.threads index).entries →
    system.registry.objects entry.1 = some ⟨(system.threads index).graph, entry.2⟩
  nodup : ∀ index, (system.threads index).owned.Nodup
  disjoint : ∀ index other handle, handle ∈ (system.threads index).owned →
    handle ∈ (system.threads other).owned → index = other
  frame : ∀ handle, (∀ index, handle ∉ (system.threads index).owned) →
    system.registry.objects handle = initial.objects handle
  fresh : ∀ index handle, handle ∈ (system.threads index).owned → initial.objects handle = none

section Safe

variable {initial : PacketRegistry} {alloc : Allocator} {system next : CallbackSystem}
  {index : Nat} {action : CallbackAction} {result : RegistryResult}

theorem CallbackSystem.Safe.start (howned : initial.Owned) (threads : Nat → CallbackThread)
    (hidle : ∀ index, (threads index).held = [] ∧ (threads index).copies = []) :
    CallbackSystem.Safe initial ⟨initial, threads⟩ where
  owned := howned
  live index entry hentry := by simp [CallbackThread.entries, hidle index] at hentry
  nodup index := by simp [CallbackThread.owned, CallbackThread.entries, hidle index]
  disjoint index _ _ hmem := by
    simp [CallbackThread.owned, CallbackThread.entries, hidle index] at hmem
  frame _ _ := rfl
  fresh index _ hmem := by
    simp [CallbackThread.owned, CallbackThread.entries, hidle index] at hmem

/-- A free address is owned by no thread. -/
theorem CallbackSystem.Safe.not_owned (hsafe : system.Safe initial) {handle : Nat}
    (hfree : system.registry.objects handle = none) (other : Nat) :
    handle ∉ (system.threads other).owned := by
  intro hmem
  obtain ⟨entry, hentry, rfl⟩ := List.mem_map.mp hmem
  simp [hsafe.live other entry hentry] at hfree

/-- A step that keys a new object for the thread at `index` keeps the handles safe. -/
theorem CallbackSystem.Safe.after_add (hsafe : system.Safe initial)
    (howned : next.registry.Owned) {thread : CallbackThread} {handle : Nat} {packet : Packet}
    (hfree : system.registry.objects handle = none)
    (hobjects : next.registry.objects = Function.update system.registry.objects handle
      (some ⟨(system.threads index).graph, packet⟩))
    (hthreads : next.threads = Function.update system.threads index thread)
    (hgraph : thread.graph = (system.threads index).graph)
    (hentries : List.Perm thread.entries ((system.threads index).entries ++ [(handle, packet)])) :
    next.Safe initial := by
  have hnot := hsafe.not_owned hfree
  have hgraphs := CallbackSystem.graph_eq_of_update hthreads hgraph
  have hmem : ∀ other entry, entry ∈ (next.threads other).entries ↔
      entry ∈ (system.threads other).entries ∨ (other = index ∧ entry = (handle, packet)) := by
    intro other entry
    by_cases hother : other = index
    · subst hother
      rw [hthreads, Function.update_same, hentries.mem_iff]
      simp
    · rw [hthreads, Function.update_noteq hother]
      simp [hother]
  have howns : ∀ other key, key ∈ (next.threads other).owned ↔
      key ∈ (system.threads other).owned ∨ (other = index ∧ key = handle) := by
    intro other key
    simp only [CallbackThread.owned, List.mem_map, hmem, or_and_right, exists_or, and_assoc,
      exists_and_left, exists_eq_left, @eq_comm _ handle]
  refine ⟨howned, fun other entry hentry => ?_, fun other => ?_, ?_, fun key hkey => ?_, ?_⟩
  · rw [hgraphs, hobjects]
    rcases (hmem other entry).mp hentry with hold | ⟨rfl, rfl⟩
    · have hne : entry.1 ≠ handle := fun h => hnot other (h ▸ List.mem_map_of_mem _ hold)
      rw [Function.update_noteq hne, hsafe.live other entry hold]
    · simp
  · by_cases hother : other = index
    · subst hother
      rw [hthreads, Function.update_same, CallbackThread.owned, (hentries.map _).nodup_iff,
        List.map_append, List.map_singleton]
      exact (hsafe.nodup other).append (List.nodup_singleton handle)
        (List.disjoint_singleton.mpr (hnot other))
    · simpa [hthreads, hother] using hsafe.nodup other
  · intro first second key hfirst hsecond
    rcases (howns first key).mp hfirst with hfirst | ⟨rfl, hkey⟩ <;>
      rcases (howns second key).mp hsecond with hsecond | ⟨rfl, hkey'⟩
    · exact hsafe.disjoint first second key hfirst hsecond
    · exact absurd (hkey' ▸ hfirst) (hnot first)
    · exact absurd (hkey ▸ hsecond) (hnot second)
    · rfl
  · have hne : key ≠ handle := fun h => hkey index ((howns index key).mpr (.inr ⟨rfl, h⟩))
    rw [hobjects, Function.update_noteq hne]
    exact hsafe.frame key fun other hmem => hkey other ((howns other key).mpr (.inl hmem))
  · intro other key hkey
    rcases (howns other key).mp hkey with hold | ⟨-, rfl⟩
    · exact hsafe.fresh other key hold
    · rw [← hsafe.frame key hnot, hfree]

/-- A step that frees one of the handles the thread at `index` owns keeps the handles
safe. -/
theorem CallbackSystem.Safe.after_remove (hsafe : system.Safe initial)
    (howned : next.registry.Owned) {thread : CallbackThread} {handle : Nat} {packet : Packet}
    (hentries : List.Perm (system.threads index).entries ((handle, packet) :: thread.entries))
    (hobjects : next.registry.objects = Function.update system.registry.objects handle none)
    (hthreads : next.threads = Function.update system.threads index thread)
    (hgraph : thread.graph = (system.threads index).graph) :
    next.Safe initial := by
  have hnodup : (handle :: thread.owned).Nodup := by
    simpa [CallbackThread.owned] using (hentries.map Prod.fst).nodup_iff.mp (hsafe.nodup index)
  have hmine : handle ∈ (system.threads index).owned :=
    List.mem_map_of_mem Prod.fst (hentries.mem_iff.mpr (List.mem_cons_self _ _))
  have hgraphs := CallbackSystem.graph_eq_of_update hthreads hgraph
  have hnext : ∀ other entry, entry ∈ (next.threads other).entries ↔
      entry ∈ (system.threads other).entries ∧ entry.1 ≠ handle := by
    intro other entry
    by_cases hother : other = index
    · subst hother
      rw [hthreads, Function.update_same, hentries.mem_iff, List.mem_cons]
      constructor
      · intro hentry
        exact ⟨.inr hentry, fun h => (List.nodup_cons.mp hnodup).1
          (h ▸ List.mem_map_of_mem _ hentry)⟩
      · rintro ⟨rfl | hentry, hne⟩
        · exact absurd rfl hne
        · exact hentry
    · rw [hthreads, Function.update_noteq hother]
      refine ⟨fun hentry => ⟨hentry, fun h => hother ?_⟩, And.left⟩
      exact (hsafe.disjoint index other handle hmine (h ▸ List.mem_map_of_mem _ hentry)).symm
  have howns : ∀ other key, key ∈ (next.threads other).owned ↔
      key ∈ (system.threads other).owned ∧ key ≠ handle := by
    intro other key
    simp only [CallbackThread.owned, List.mem_map, hnext]
    exact ⟨fun ⟨entry, ⟨hentry, hne⟩, hkey⟩ => ⟨⟨entry, hentry, hkey⟩, hkey ▸ hne⟩,
      fun ⟨⟨entry, hentry, hkey⟩, hne⟩ => ⟨entry, ⟨hentry, hkey ▸ hne⟩, hkey⟩⟩
  refine ⟨howned, fun other entry hentry => ?_, fun other => ?_,
    fun first second key hfirst hsecond => hsafe.disjoint first second key
      ((howns first key).mp hfirst).1 ((howns second key).mp hsecond).1,
    fun key hkey => ?_,
    fun other key hkey => hsafe.fresh other key ((howns other key).mp hkey).1⟩
  · obtain ⟨hold, hne⟩ := (hnext other entry).mp hentry
    rw [hgraphs, hobjects, Function.update_noteq hne, hsafe.live other entry hold]
  · by_cases hother : other = index
    · subst hother
      rw [hthreads, Function.update_same]
      exact (List.nodup_cons.mp hnodup).2
    · simpa [hthreads, hother] using hsafe.nodup other
  · rw [hobjects]
    by_cases hkeyHandle : key = handle
    · subst hkeyHandle
      rw [Function.update_same, hsafe.fresh index key hmine]
    · rw [Function.update_noteq hkeyHandle]
      exact hsafe.frame key fun other hmem =>
        hkey other ((howns other key).mpr ⟨hmem, hkeyHandle⟩)

/-- Every step of every thread keeps the handles safe. -/
theorem CallbackSystem.Safe.step (hsafe : system.Safe initial)
    (hstep : system.step alloc index action = some (result, next)) : next.Safe initial := by
  have howned := CallbackSystem.step_owned hsafe.owned hstep
  cases action with
  | wrap =>
      obtain ⟨packet, rest, handle, -, hfree, hobjects, hthreads⟩ :=
        CallbackSystem.step_wrap hsafe.owned hstep
      refine hsafe.after_add howned hfree hobjects hthreads rfl ?_
      simp only [CallbackThread.entries, List.append_assoc, List.singleton_append]
      exact List.Perm.append_left _ (List.perm_append_singleton _ _).symm
  | read handle =>
      obtain ⟨-, rfl, -⟩ := CallbackSystem.step_read hsafe.owned hstep
      exact hsafe
  | remove =>
      obtain ⟨handle, packet, rest, -, hheld, -, hobjects, hthreads⟩ :=
        CallbackSystem.step_remove hsafe.owned hstep
      have hperm : List.Perm (system.threads index).entries ((handle, packet) ::
          { system.threads index with held := rest, returned := true }.entries) := by
        rw [CallbackThread.entries, hheld]
        rfl
      exact hsafe.after_remove howned hperm hobjects hthreads rfl
  | javaWrap packet =>
      obtain ⟨handle, hfree, hobjects, hthreads⟩ := CallbackSystem.step_javaWrap hsafe.owned hstep
      refine hsafe.after_add howned hfree hobjects hthreads rfl ?_
      simp only [CallbackThread.entries, List.append_assoc]
      rfl
  | javaRelease handle =>
      obtain ⟨hmem, -, hobjects, hthreads⟩ := CallbackSystem.step_javaRelease hsafe.owned hstep
      obtain ⟨packet, hperm⟩ := (system.threads index).entries_perm_eraseP hmem
      exact hsafe.after_remove howned hperm hobjects hthreads rfl

/-- Every interleaving keeps the handles safe. -/
theorem CallbackSystem.Safe.run (hsafe : system.Safe initial)
    {schedule : List (Nat × CallbackAction)} {final : CallbackSystem}
    (hrun : system.run alloc schedule = some final) : final.Safe initial :=
  CallbackSystem.run_invariant _ (fun hsafe hstep => hsafe.step hstep) hsafe hrun

/-- A read of a Java callback returns the packet its thread wrapped at that handle, and a
removal erases its key. -/
theorem CallbackSystem.Safe.step_result (hsafe : system.Safe initial)
    (hstep : system.step alloc index action = some (result, next)) :
    (∀ handle, action = .read handle →
      ∃ packet, (handle, packet) ∈ (system.threads index).held ∧ result = .packet packet) ∧
    (action = .remove → result = .removed true) := by
  refine ⟨fun handle haction => ?_, fun haction => ?_⟩ <;> subst haction
  · obtain ⟨hmine, -, object, hobject, rfl⟩ := CallbackSystem.step_read hsafe.owned hstep
    obtain ⟨entry, hentry, rfl⟩ := List.mem_map.mp hmine
    have hlive := hsafe.live index entry (List.mem_append_left _ hentry)
    rw [hobject, Option.some.injEq] at hlive
    exact ⟨entry.2, hentry, by rw [hlive]⟩
  · obtain ⟨_, _, _, -, -, hresult, -⟩ := CallbackSystem.step_remove hsafe.owned hstep
    exact hresult

/-- A thread whose packets are all wrapped can always remove its first handle: it is live. -/
theorem CallbackSystem.Safe.step_remove_isSome (hsafe : system.Safe initial)
    (hwrapped : (system.threads index).toWrap = [])
    (hheld : (system.threads index).held ≠ []) : (system.step alloc index .remove).isSome := by
  obtain ⟨⟨handle, packet⟩, rest, hcons⟩ := List.exists_cons_of_ne_nil hheld
  have hlive := hsafe.live index (handle, packet) (by simp [CallbackThread.entries, hcons])
  simp only [CallbackSystem.step, CallbackThread.call, hwrapped, hcons, if_true,
    List.head?_cons, Option.map_some', Option.some_bind, hsafe.owned.step_removePacket]
  simp [hlive]

/-- Each thread keeps its graph and holds only packets it was started with. -/
structure CallbackSystem.OwnPackets (start : Nat → CallbackThread) (system : CallbackSystem) :
    Prop where
  graph_eq : ∀ index, (system.threads index).graph = (start index).graph
  mem_start : ∀ index packet, packet ∈ (system.threads index).held.map Prod.snd ∨
    packet ∈ (system.threads index).toWrap → packet ∈ (start index).toWrap

theorem CallbackSystem.OwnPackets.update {start : Nat → CallbackThread}
    (hown : system.OwnPackets start) {thread : CallbackThread}
    (hthreads : next.threads = Function.update system.threads index thread)
    (hgraph : thread.graph = (system.threads index).graph)
    (hsub : ∀ packet, packet ∈ thread.held.map Prod.snd ∨ packet ∈ thread.toWrap →
      packet ∈ (system.threads index).held.map Prod.snd ∨ packet ∈ (system.threads index).toWrap) :
    next.OwnPackets start := by
  refine ⟨fun other => ?_, fun other packet hpacket => ?_⟩
  · rw [CallbackSystem.graph_eq_of_update hthreads hgraph, hown.graph_eq]
  by_cases hother : other = index
  · subst hother
    rw [hthreads, Function.update_same] at hpacket
    exact hown.mem_start other packet (hsub packet hpacket)
  · rw [hthreads, Function.update_noteq hother] at hpacket
    exact hown.mem_start other packet hpacket

theorem CallbackSystem.OwnPackets.step {start : Nat → CallbackThread}
    (hown : system.OwnPackets start) (howned : system.registry.Owned)
    (hstep : system.step alloc index action = some (result, next)) : next.OwnPackets start := by
  cases action with
  | wrap =>
      obtain ⟨packet, rest, handle, hwrap, -, -, hthreads⟩ := CallbackSystem.step_wrap howned hstep
      refine hown.update hthreads rfl fun member hmember => ?_
      simp only [List.map_append, List.map_singleton, List.mem_append, List.mem_singleton]
        at hmember
      rw [hwrap, List.mem_cons]
      rcases hmember with (hmember | hmember) | hmember <;> simp [hmember]
  | read handle =>
      obtain ⟨-, rfl, -⟩ := CallbackSystem.step_read howned hstep
      exact hown
  | remove =>
      obtain ⟨handle, packet, rest, -, hheld, -, -, hthreads⟩ :=
        CallbackSystem.step_remove howned hstep
      refine hown.update hthreads rfl fun member hmember => ?_
      rw [hheld, List.map_cons, List.mem_cons]
      rcases hmember with hmember | hmember <;> simp [hmember]
  | javaWrap packet =>
      obtain ⟨handle, -, -, hthreads⟩ := CallbackSystem.step_javaWrap howned hstep
      exact hown.update hthreads rfl fun _ hmember => hmember
  | javaRelease handle =>
      obtain ⟨-, -, -, hthreads⟩ := CallbackSystem.step_javaRelease howned hstep
      exact hown.update hthreads rfl fun _ hmember => hmember

theorem CallbackSystem.OwnPackets.start (threads : Nat → CallbackThread)
    (hidle : ∀ index, (threads index).held = []) (registry : PacketRegistry) :
    CallbackSystem.OwnPackets threads ⟨registry, threads⟩ where
  graph_eq _ := rfl
  mem_start index packet hpacket := by simpa [hidle index] using hpacket

theorem CallbackSystem.OwnPackets.run {start : Nat → CallbackThread} (hsafe : system.Safe initial)
    (hown : system.OwnPackets start) {schedule : List (Nat × CallbackAction)}
    {final : CallbackSystem} (hrun : system.run alloc schedule = some final) :
    final.OwnPackets start :=
  (CallbackSystem.run_invariant (fun system => system.Safe initial ∧ system.OwnPackets start)
    (fun hboth hstep => ⟨hboth.1.step hstep, hboth.2.step hboth.1.owned hstep⟩)
    ⟨hsafe, hown⟩ hrun).2

/-- A thread whose packets are all wrapped removes its handles one after another, whatever
the other threads hold; the removals free exactly its handles' objects and change no other
thread. -/
theorem CallbackSystem.Safe.run_removes (hsafe : system.Safe initial)
    (hwrapped : (system.threads index).toWrap = []) {count : Nat}
    (hcount : (system.threads index).held.length = count) :
    ∃ final, system.run alloc (List.replicate count (index, .remove)) = some final ∧
      (final.threads index).held = [] ∧
      (∀ other, other ≠ index → final.threads other = system.threads other) ∧
      ∀ handle, final.registry.objects handle =
        if handle ∈ (system.threads index).handles then none
        else system.registry.objects handle := by
  induction count generalizing system with
  | zero =>
      have hempty := List.length_eq_zero.mp hcount
      exact ⟨system, rfl, hempty, fun _ _ => rfl, fun handle => by
        simp [CallbackThread.handles, hempty]⟩
  | succ count ih =>
      obtain ⟨⟨result, next⟩, hstep⟩ : ∃ step, system.step alloc index .remove = some step :=
        Option.isSome_iff_exists.mp
          (hsafe.step_remove_isSome hwrapped (List.ne_nil_of_length_eq_add_one hcount))
      obtain ⟨handle, packet, rest, -, hheld, -, hobjects, hthreads⟩ :=
        CallbackSystem.step_remove hsafe.owned hstep
      have hthread : next.threads index =
          { system.threads index with held := rest, returned := true } := by
        rw [hthreads, Function.update_same]
      obtain ⟨final, hrun, hdone, hframe, hfreed⟩ := ih (hsafe.step hstep)
        (by rw [hthread]; exact hwrapped) (by simpa [hthread, hheld] using hcount)
      refine ⟨final, by simpa [List.replicate_succ, CallbackSystem.run, hstep] using hrun, hdone,
        fun other hother => by rw [hframe other hother, hthreads, Function.update_noteq hother],
        fun other => ?_⟩
      rw [hfreed, hobjects, hthread]
      by_cases hother : other = handle
      · subst hother
        simp [CallbackThread.handles, hheld]
      · simp only [CallbackThread.handles, hheld, List.map_cons, List.mem_cons, hother, false_or,
          Function.update_noteq hother]

end Safe

/-! ## What every interleaving does -/

section Interleaving

variable {initial : PacketRegistry} {alloc : Allocator} {threads : Nat → CallbackThread}
  {schedule : List (Nat × CallbackAction)} {system : CallbackSystem}

/-- However the callbacks and their Java code interleave, a read of a Java callback returns a
packet its own `CallbackToJava` was called with, the one it wrapped at that handle, and every
`RemovePacket` of a callback erases its key. -/
theorem CallbackSystem.run_reads_own_packet (howned : initial.Owned)
    (hidle : ∀ index, (threads index).held = [] ∧ (threads index).copies = [])
    (hrun : CallbackSystem.run alloc ⟨initial, threads⟩ schedule = some system)
    {index : Nat} {action : CallbackAction} {result : RegistryResult} {next : CallbackSystem}
    (hstep : system.step alloc index action = some (result, next)) :
    (∀ handle, action = .read handle → ∃ packet, (handle, packet) ∈ (system.threads index).held ∧
      packet ∈ (threads index).toWrap ∧ result = .packet packet) ∧
    (action = .remove → result = .removed true) := by
  have hstart := CallbackSystem.Safe.start howned threads hidle
  have hown :=
    (CallbackSystem.OwnPackets.start threads (fun index => (hidle index).1) initial).run hstart hrun
  obtain ⟨hread, hremove⟩ := (hstart.run hrun).step_result hstep
  refine ⟨fun handle haction => ?_, hremove⟩
  obtain ⟨packet, hheld, rfl⟩ := hread handle haction
  exact ⟨packet, hheld, hown.mem_start index packet (.inl (List.mem_map_of_mem _ hheld)), rfl⟩

/-- Thread 0 wraps at address 0, its Java callback wraps a copy at address 1, and thread 0
releases address 0; thread 1's wrap reuses the address, and a read of it by thread 1 returns
thread 1's packet. -/
theorem CallbackSystem.run_reads_own_packet_after_reuse :
    let alloc := firstFitAllocator 4
    let threads : Nat → CallbackThread := fun index =>
      .start (index + 1) [makePacket (.callback index)]
    let schedule : List (Nat × CallbackAction) :=
      [(0, .wrap), (0, .javaWrap (makePacket (.callback 0))), (0, .remove), (1, .wrap)]
    PacketRegistry.empty.Owned ∧ (∀ index, (threads index).held = [] ∧ (threads index).copies = [])
      ∧ ∃ system, CallbackSystem.run alloc ⟨.empty, threads⟩ schedule = some system ∧
        ∃ result next, system.step alloc 1 (.read 0) = some (result, next) ∧
          (∀ handle, CallbackAction.read 0 = .read handle → ∃ packet,
            (handle, packet) ∈ (system.threads 1).held ∧ packet ∈ (threads 1).toWrap ∧
              result = .packet packet) ∧
          (CallbackAction.read 0 = .remove → result = .removed true) := by
  intro alloc threads schedule
  exact ⟨.empty, fun _ => ⟨rfl, rfl⟩, _, rfl, _, _, rfl,
    @CallbackSystem.run_reads_own_packet _ alloc threads schedule _ .empty
      (fun _ => ⟨rfl, rfl⟩) rfl 1 (.read 0) _ _ rfl⟩

/-- Once every callback has released its handles, whatever the interleaving, the packets the
Java code still holds are live in their graphs, every other address is as it was before the
callbacks, and once the Java code has released those too the registry is what it was. -/
theorem CallbackSystem.run_restores (howned : initial.Owned)
    (hidle : ∀ index, (threads index).held = [] ∧ (threads index).copies = [])
    (hrun : CallbackSystem.run alloc ⟨initial, threads⟩ schedule = some system)
    (hdone : ∀ index, (system.threads index).held = []) :
    (∀ index entry, entry ∈ (system.threads index).copies →
        system.registry.objects entry.1 = some ⟨(system.threads index).graph, entry.2⟩) ∧
      (∀ handle, (∀ index, handle ∉ (system.threads index).copies.map Prod.fst) →
        system.registry.objects handle = initial.objects handle) ∧
      ((∀ index, (system.threads index).copies = []) → system.registry = initial) := by
  have hsafe := (CallbackSystem.Safe.start howned threads hidle).run hrun
  have howns : ∀ index, (system.threads index).owned =
      (system.threads index).copies.map Prod.fst := fun index => by
    simp [CallbackThread.owned, CallbackThread.entries, hdone index]
  refine ⟨fun index entry hentry => hsafe.live index entry (by
      simp [CallbackThread.entries, hdone index, hentry]),
    fun handle hnone => hsafe.frame handle fun index => by rw [howns]; exact hnone index,
    fun hcopies => hsafe.owned.ext howned (funext fun handle =>
      hsafe.frame handle fun index => by simp [howns, hcopies index])⟩

/-- Two callbacks interleave their wraps, a read, a copy and their removals; the copy stays
live at address 2. -/
theorem CallbackSystem.run_restores_of_two_callbacks :
    let alloc := firstFitAllocator 4
    let threads : Nat → CallbackThread := fun index =>
      .start (index + 1) [makePacket (.callback index)]
    let schedule : List (Nat × CallbackAction) :=
      [(0, .wrap), (1, .wrap), (1, .read 1), (1, .javaWrap (makePacket (.java 9))),
        (0, .remove), (1, .remove)]
    PacketRegistry.empty.Owned ∧ (∀ index, (threads index).held = [] ∧ (threads index).copies = [])
      ∧ ∃ system, CallbackSystem.run alloc ⟨.empty, threads⟩ schedule = some system ∧
        (∀ index, (system.threads index).held = []) ∧
        (∀ index entry, entry ∈ (system.threads index).copies →
          system.registry.objects entry.1 = some ⟨(system.threads index).graph, entry.2⟩) ∧
        (∀ handle, (∀ index, handle ∉ (system.threads index).copies.map Prod.fst) →
          system.registry.objects handle = PacketRegistry.empty.objects handle) ∧
        ((∀ index, (system.threads index).copies = []) → system.registry = .empty) := by
  intro alloc threads schedule
  have hrestores := @CallbackSystem.run_restores _ alloc threads schedule _ .empty
    (fun _ => ⟨rfl, rfl⟩) rfl
  refine ⟨.empty, fun _ => ⟨rfl, rfl⟩, _, rfl, ?hdone, hrestores ?hdone⟩
  intro index
  rcases index with _ | _ | index <;> rfl

/-- From every state an interleaving reaches, a thread whose packets are all wrapped can
release its handles whatever the other threads hold: its removals run one after another,
free exactly its handles' objects and leave the other threads as they were. -/
theorem CallbackSystem.run_release (howned : initial.Owned)
    (hidle : ∀ index, (threads index).held = [] ∧ (threads index).copies = [])
    (hrun : CallbackSystem.run alloc ⟨initial, threads⟩ schedule = some system) {index : Nat}
    (hwrapped : (system.threads index).toWrap = []) :
    ∃ final, system.run alloc
        (List.replicate (system.threads index).held.length (index, .remove)) = some final ∧
      (final.threads index).held = [] ∧
      (∀ other, other ≠ index → final.threads other = system.threads other) ∧
      ∀ handle, final.registry.objects handle =
        if handle ∈ (system.threads index).handles then none
        else system.registry.objects handle :=
  ((CallbackSystem.Safe.start howned threads hidle).run hrun).run_removes hwrapped rfl

/-- Two callbacks wrap their packets, and the first releases its handle while the second
still holds one. -/
theorem CallbackSystem.run_release_after_two_wraps :
    let alloc := firstFitAllocator 4
    let threads : Nat → CallbackThread := fun index =>
      .start (index + 1) [makePacket (.callback index)]
    let schedule : List (Nat × CallbackAction) := [(0, .wrap), (1, .wrap)]
    PacketRegistry.empty.Owned ∧ (∀ index, (threads index).held = [] ∧ (threads index).copies = [])
      ∧ ∃ system, CallbackSystem.run alloc ⟨.empty, threads⟩ schedule = some system ∧
        (system.threads 0).toWrap = [] ∧
        ∃ final, system.run alloc
            (List.replicate (system.threads 0).held.length (0, .remove)) = some final ∧
          (final.threads 0).held = [] ∧
          (∀ other, other ≠ 0 → final.threads other = system.threads other) ∧
          ∀ handle, final.registry.objects handle =
            if handle ∈ (system.threads 0).handles then none
            else system.registry.objects handle := by
  intro alloc threads schedule
  exact ⟨.empty, fun _ => ⟨rfl, rfl⟩, _, rfl, rfl,
    @CallbackSystem.run_release _ alloc threads schedule _ .empty (fun _ => ⟨rfl, rfl⟩) rfl 0 rfl⟩

end Interleaving

end MediaPipe.Jni
