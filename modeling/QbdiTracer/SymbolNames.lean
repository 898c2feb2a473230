import QbdiTracer.Dispatch.ModuleSymbols
import QbdiTracer.Exports

/-! The names under which calls into a library are shown, and the name that an address is
given: both are names of symbols of the library at that address. -/

namespace QbdiTracer

open FirstInsert

variable {arch : Arch} {module : XdlHandle arch} {dyn : DynSym arch} {symbols : List (ElfSym arch)}
  {ifunc : XdlHandle.Resolver arch} {fuel : ℕ}

/-- An address is called what the first report of it says. -/
theorem foldl_addExportInfo (exports : List (XdlHandle.Export arch)) {address : Word arch}
    (nonnull : address ≠ 0) :
    exports.foldl DispatchBase.addExportInfo (fun _ => none) address =
      (exports.find? fun symbol => symbol.2 = address).map Prod.fst := by
  -- the reports of the null address are dropped
  have kept : exports.foldl DispatchBase.addExportInfo (fun _ => none) =
      ((exports.filter fun symbol => symbol.2 ≠ 0).map Prod.swap).foldl
        (fun table pair => emplaceAt table pair.1 pair.2) fun _ => none := by
    rw [List.foldl_map, List.foldl_filter]
    simp only [Prod.fst_swap, Prod.snd_swap, decide_eq_true_eq]
    rfl
  rw [kept, foldl_emplaceAt, Option.none_or, List.find?_map, List.find?_filter, Option.map_map]
  refine congrArg (fun hit => (exports.find? hit).map Prod.fst) (funext fun symbol => ?_)
  by_cases here : symbol.2 = address
  · have positive : ¬ address = 0#_ := nonnull
    simp [here, positive]
  · simp [here]

namespace XdlHandle

/-- The library has a symbol of this name at the address: in the hash table of `.dynsym`, or in
`.symtab`, where a suffix after the name does not count. -/
inductive NameAt (module : XdlHandle arch) (ifunc : Resolver arch) (symbols : List (ElfSym arch)) :
    Word arch → String → Prop where
  | dynsym {sym : ElfSym arch} (member : sym ∈ symbols) :
      NameAt module ifunc symbols (module.resolveSymbolAddress ifunc sym) sym.name
  | symtab {sym : ElfSym arch} {name : String} (member : sym ∈ module.symtab.getD [])
      (exported : sym.isSymtabExport = true)
      (matched : sym.name = name ∨ dsymIsMatch sym.name.toList name.toList = true) :
      NameAt module ifunc symbols (module.loadBias + sym.value) name

theorem NameAt.of_xdlDsym {name : String} (found : module.xdlDsym name ≠ 0) :
    module.NameAt ifunc symbols (module.xdlDsym name) name := by
  rw [xdlDsym] at found ⊢
  cases held : module.symtab with
  | none => simp [held] at found
  | some syms =>
    simp only [held] at found ⊢
    cases first : syms.find? (isDsymMatch name) with
    | none => simp [first] at found
    | some sym =>
      have matched := List.find?_some first
      rw [isDsymMatch, Bool.and_eq_true] at matched
      refine .symtab ?_ matched.1 (.inr matched.2)
      rw [held]
      exact List.mem_of_find?_eq_some first

/-- What `find_symbol` finds is a symbol of that name. -/
theorem findSymbol_nameAt (loaded : module.dynsym = some dyn) (defines : dyn.Defines symbols)
    (enough : dyn.rounds symbols ≤ fuel) (ifunc : Resolver arch) (name : String) :
    ∃ addr, module.findSymbol ifunc fuel name = some addr ∧
      (addr ≠ 0 → module.NameAt ifunc symbols addr name) := by
  rw [findSymbol]
  by_cases unnamed : name.isEmpty = true
  · exact ⟨0, if_pos unnamed, fun nonnull => absurd rfl nonnull⟩
  · rw [if_neg unnamed, xdlSym_eq loaded defines enough]
    simp only [Option.bind_eq_bind, Option.bind_some]
    split
    · exact ⟨_, rfl, NameAt.of_xdlDsym⟩
    · rename_i nonnull
      refine ⟨_, rfl, fun _ => ?_⟩
      cases first : symbols.find? fun sym => sym.name = name with
      | none => simp [first] at nonnull
      | some sym =>
        have same : sym.name = name := by simpa using List.find?_some first
        rw [Option.elim_some, ← same]
        exact .dynsym (List.mem_of_find?_eq_some first)

end XdlHandle

namespace DispatchBase

open XdlHandle

variable {call : InstFunCall arch}

/-- The name that a call into the module is shown under. -/
theorem dispatchArgsByTable_funName {dispatch : DispatchBase arch}
    (inside : dispatch.isModuleAddress call.funAddress = true) (moduleName : String)
    (process : Process arch) (info : InstTraceInfo arch) :
    ∃ shown, dispatch.dispatchArgsByTable moduleName process info call = some shown ∧
      shown.funName = match dispatch.handlers call.funAddress with
        | some entry => entry.1
        | none =>
          if dispatch.getAddressSymbol call.funAddress = "" then call.funName
          else dispatch.getAddressSymbol call.funAddress := by
  rw [dispatchArgsByTable, if_pos inside]
  cases dispatch.handlers call.funAddress with
  | some entry => exact ⟨_, rfl, rfl⟩
  | none =>
    by_cases unnamed : dispatch.getAddressSymbol call.funAddress = ""
    · exact ⟨_, if_pos unnamed, (if_pos unnamed).symm⟩
    · exact ⟨_, if_neg unnamed, (if_neg unnamed).symm⟩

/-- One registration brings at most its own entry, at an address of the function. -/
theorem registerHandler_placed (loaded : module.dynsym = some dyn) (defines : dyn.Defines symbols)
    (enough : dyn.rounds symbols ≤ fuel) (ifunc : Resolver arch)
    (handlers : Word arch → Option (String × Handler arch)) (entry : String × Handler arch) :
    ∃ next, registerHandler module ifunc fuel handlers entry = some next ∧
      ∀ address other, next address = some other → handlers address = some other ∨
        other = entry ∧ module.NameAt ifunc symbols address other.1 := by
  obtain ⟨addr, looked, named⟩ := findSymbol_nameAt loaded defines enough ifunc entry.1
  rw [registerHandler, looked]
  by_cases null : addr = 0
  · exact ⟨handlers, if_neg (not_not.mpr null), fun _ _ held => .inl held⟩
  · refine ⟨emplaceAt handlers addr entry, if_pos null, fun address other held => ?_⟩
    rcases eq_some_of_emplaceAt held with before | ⟨rfl, rfl⟩
    · exact .inl before
    · exact .inr ⟨rfl, named null⟩

/-- The handlers registered stand at addresses of their functions. -/
theorem foldlM_registerHandler (loaded : module.dynsym = some dyn) (defines : dyn.Defines symbols)
    (enough : dyn.rounds symbols ≤ fuel) (ifunc : Resolver arch)
    (table : List (String × Handler arch))
    (handlers : Word arch → Option (String × Handler arch)) :
    ∃ registered, table.foldlM (registerHandler module ifunc fuel) handlers = some registered ∧
      ∀ addr entry, registered addr = some entry →
        handlers addr = some entry ∨ entry ∈ table ∧ module.NameAt ifunc symbols addr entry.1 := by
  induction table generalizing handlers with
  | nil => exact ⟨handlers, rfl, fun _ _ held => .inl held⟩
  | cons entry table ih =>
    obtain ⟨next, registers, first⟩ := registerHandler_placed loaded defines enough ifunc handlers entry
    obtain ⟨registered, rest, later⟩ := ih next
    refine ⟨registered, by simp [registers, rest], fun address other held => ?_⟩
    rcases later address other held with before | ⟨member, at_⟩
    · rcases first address other before with earlier | ⟨rfl, at_⟩
      · exact .inl earlier
      · exact .inr ⟨List.mem_cons_self, at_⟩
    · exact .inr ⟨List.mem_cons_of_mem _ member, at_⟩

/-- The name an address has among the reported symbols, the first of these at it. -/
theorem foldl_enumerateExports {front : List (Export arch)} {address : Word arch}
    (reported : ∀ sym ∈ symbols, module.exportOf ifunc sym ∈ front)
    (others : ∀ entry ∈ front, entry.2 = address →
      ∃ sym ∈ symbols, entry = module.exportOf ifunc sym)
    (named : ∀ sym ∈ symbols, sym.name ≠ "") (nonnull : address ≠ 0) :
    ∃ symbol, ((front ++ module.enumerateSymtab).foldl addExportInfo (fun _ => none) address).getD "" =
        symbol ∧
      (symbol = "" ∧ (∀ sym ∈ symbols, module.resolveSymbolAddress ifunc sym ≠ address) ∨
        symbol ≠ "" ∧ module.NameAt ifunc symbols address symbol) := by
  rw [foldl_addExportInfo _ nonnull, List.find?_append]
  cases first : front.find? fun symbol => symbol.2 = address with
  | some entry =>
    have here : entry.2 = address := by simpa using List.find?_some first
    obtain ⟨sym, member, rfl⟩ := others entry (List.mem_of_find?_eq_some first) here
    refine ⟨sym.name, rfl, .inr ⟨named sym member, ?_⟩⟩
    rw [← here]
    exact .dynsym member
  | none =>
    have away : ∀ sym ∈ symbols, module.resolveSymbolAddress ifunc sym ≠ address := by
      intro sym member same
      exact List.find?_eq_none.mp first _ (reported sym member) (decide_eq_true same)
    rw [Option.none_or]
    cases later : module.enumerateSymtab.find? fun symbol => symbol.2 = address with
    | none => exact ⟨"", rfl, .inl ⟨rfl, away⟩⟩
    | some entry =>
      have here : entry.2 = address := by simpa using List.find?_some later
      obtain ⟨sym, listed, rfl⟩ := List.mem_map.mp (List.mem_of_find?_eq_some later)
      obtain ⟨member, exported⟩ := List.mem_filter.mp listed
      refine ⟨sym.name, rfl, ?_⟩
      by_cases unnamed : sym.name = ""
      · exact .inl ⟨unnamed, away⟩
      · rw [← here]
        exact .inr ⟨unnamed, .symtab member exported (.inl rfl)⟩

/-- A call into the module is shown under the name of a symbol at its address, and under no
name only if the hash table has none there. -/
theorem construct_dispatchArgs (loaded : module.dynsym = some dyn) (defines : dyn.Defines symbols)
    (nonempty : symbols ≠ []) (named : ∀ sym ∈ symbols, sym.name ≠ "")
    (imports : ∀ n < dyn.gnuHash.symoffset.toNat,
      (dyn.sym n).value = 0 ∧ (dyn.sym n).type ≠ ElfSym.sttGnuIfunc)
    (enough : dyn.rounds symbols ≤ fuel) (moduleRange : ModuleRange arch)
    (table : List (String × Handler arch)) :
    ∃ dispatch, construct module ifunc fuel moduleRange table = some dispatch ∧
      dispatch.moduleRange = moduleRange ∧ ∀ moduleName process info (call : InstFunCall arch),
        dispatch.isModuleAddress call.funAddress = true → call.funAddress ≠ 0 →
        call.funAddress ≠ module.loadBias →
        ∃ shown, dispatch.dispatchArgsByTable moduleName process info call = some shown ∧
          (module.NameAt ifunc symbols call.funAddress shown.funName ∨
            shown.funName = call.funName ∧
              ∀ sym ∈ symbols, module.resolveSymbolAddress ifunc sym ≠ call.funAddress) := by
  obtain ⟨handlers, registers, placed⟩ :=
    foldlM_registerHandler loaded defines enough ifunc table fun _ => none
  obtain ⟨front, reports, reported, others⟩ :=
    enumerateExports_reports loaded defines.hashes nonempty enough ifunc
  have constructed : construct module ifunc fuel moduleRange table = some
      { moduleRange, handlers,
        symbolInfo := (front ++ module.enumerateSymtab).foldl addExportInfo fun _ => none } := by
    simp only [construct, registers, reports, Option.bind_eq_bind, Option.bind_some, Option.pure_def]
  refine ⟨_, constructed, rfl, fun moduleName process info call inside nonnull above => ?_⟩
  -- an import stands at the load bias
  have own : ∀ entry ∈ front, entry.2 = call.funAddress →
      ∃ sym ∈ symbols, entry = module.exportOf ifunc sym := by
    intro entry member here
    rcases others entry member with hashed | ⟨n, before, rfl⟩
    · exact hashed
    · obtain ⟨unplaced, plain⟩ := imports n before
      rw [exportOf, resolveSymbolAddress, if_neg plain, unplaced] at here
      split at here
      · exact absurd here.symm nonnull
      · exact absurd (by simpa using here.symm) above
  obtain ⟨symbol, shows, held⟩ := foldl_enumerateExports reported own named nonnull
  obtain ⟨shown, dispatched, funName⟩ := dispatchArgsByTable_funName inside moduleName process info
  refine ⟨shown, dispatched, ?_⟩
  rw [funName, getAddressSymbol, shows]
  cases registered : handlers call.funAddress with
  | some entry =>
    rcases placed _ _ registered with absent | ⟨-, at_⟩
    · cases absent
    · simp only [registered]
      exact .inl at_
  | none =>
    simp only [registered]
    rcases held with ⟨unnamed, away⟩ | ⟨nonempty, at_⟩
    · exact .inr ⟨if_pos unnamed, away⟩
    · exact .inl (by rwa [if_neg nonempty])

end DispatchBase

/-- `b` has a handler, `a` has none. -/
theorem construct_dispatchArgs_sample :
    ∃ dispatch, DispatchBase.construct sampleLibrary (fun _ => 0) 4
        ⟨0x70000000, 0x70001000⟩ [("b", fun _ _ => {})] = some dispatch ∧
      ∀ process info (call : InstFunCall .aarch64), call.funAddress = 0x70000100 →
        ∃ shown, dispatch.dispatchArgsByTable "libab.so" process info call = some shown ∧
          sampleLibrary.NameAt (fun _ => 0) sampleSymbols 0x70000100 shown.funName := by
  obtain ⟨dispatch, constructed, range, names⟩ :=
    DispatchBase.construct_dispatchArgs (show sampleLibrary.dynsym = some sampleDynSym from rfl)
      sample_defines (by decide) (by decide) (by decide) (show _ ≤ 4 by decide)
      ⟨0x70000000, 0x70001000⟩ [("b", fun _ _ => {})]
  refine ⟨dispatch, constructed, fun process info call here => ?_⟩
  have inside : dispatch.isModuleAddress call.funAddress = true := by
    rw [DispatchBase.isModuleAddress, range, here]
    decide
  obtain ⟨shown, dispatched, named⟩ := names "libab.so" process info call inside
    (by rw [here]; decide) (by rw [here]; decide)
  rw [here] at named
  refine ⟨shown, dispatched, named.resolve_right fun unnamed => ?_⟩
  exact unnamed.2 ⟨"a", 0x100, 8, 1, 2⟩ (by decide) (by decide)

end QbdiTracer
