import ThemeSetup.Proofs.Install.Library
import ThemeSetup.Proofs.Package

/-!
# What the packing program is told

The packing program gets nine arguments, in which the paths of the request stand octet by octet
(`Package.arguments_plan`). The paths are known from the call again: two requests lead to the same
call exactly if they have the same archive and the same directories, up to a slash at the end of a
directory (`Package.plan_eq_iff`). The library that the program is told of is the one that an
installation takes. `Package.plan_carries` puts this together for the child that a run starts.
-/

namespace ThemeSetup

/-! ## Names in a directory -/

namespace Path

/-- What stands before a name in a directory: the path of the directory, and a slash unless the path
is empty or ends in one. -/
def opened (directory : Path) : Bytes :=
  if directory.bytes = [] ∨ directory.endsInSlash = true then directory.bytes
  else directory.bytes ++ [slash]

/-- A path is another one, which does not end in a slash, with a slash behind it. -/
def Slashed (path other : Path) : Prop :=
  path.endsInSlash = false ∧ other.bytes = path.bytes ++ [slash]

/-- Two paths are the same up to a slash at the end of one of them. -/
def SameDirectory (path other : Path) : Prop :=
  path = other ∨ Slashed path other ∨ Slashed other path

variable {path other : Path} {name : Bytes}

/-- Paths are the same if their octets are. -/
theorem bytes_inj : path.bytes = other.bytes ↔ path = other := by
  cases path
  cases other
  rw [mk.injEq]

/-- A name in a directory stands behind what opens the directory. -/
theorem bytes_join_opened (directory : Path) (h : IsName name) :
    (directory.join ⟨name⟩).bytes = directory.opened ++ name := by
  rw [join, if_neg (by simp [h.not_absolute]), opened]
  by_cases hopen : directory.bytes = [] ∨ directory.endsInSlash = true
  · rw [if_pos (by simpa using hopen), if_pos hopen]
  · rw [if_neg (by simpa using hopen), if_neg hopen, List.append_assoc]
    rfl

/-- A path with a slash behind it ends in one. -/
theorem Slashed.endsInSlash (h : Slashed path other) : other.endsInSlash = true := by
  rw [Path.endsInSlash, h.2, List.getLast?_append]
  rfl

/-- Two paths are the same up to a slash in either order. -/
theorem SameDirectory.symm (h : SameDirectory path other) : SameDirectory other path := by
  rcases h with rfl | hslashed | hslashed
  · exact .inl rfl
  · exact .inr (.inr hslashed)
  · exact .inr (.inl hslashed)

/-- Paths that both end in a slash, or both do not, are the same up to a slash only if they are the
same. -/
theorem sameDirectory_iff_eq (hends : path.endsInSlash = other.endsInSlash) :
    SameDirectory path other ↔ path = other := by
  refine ⟨?_, .inl⟩
  rintro (rfl | hslashed | hslashed)
  · rfl
  · rw [hslashed.1, hslashed.endsInSlash] at hends
    cases hends
  · rw [hslashed.1, hslashed.endsInSlash] at hends
    cases hends

/-- A path that does not end in a slash and one that does are the same up to a slash only if the
slash is the second's last octet. -/
theorem sameDirectory_iff_slashed (hpath : path.endsInSlash = false)
    (hother : other.endsInSlash = true) :
    SameDirectory path other ↔ other.bytes = path.bytes ++ [slash] := by
  refine ⟨?_, fun h => .inr (.inl ⟨hpath, h⟩)⟩
  rintro (rfl | hslashed | hslashed)
  · rw [hpath] at hother
    cases hother
  · exact hslashed.2
  · rw [hslashed.endsInSlash] at hpath
    cases hpath

/-- A path that ends in a slash opens a directory as it is. -/
theorem opened_of_slash (h : path.endsInSlash = true) : path.opened = path.bytes :=
  if_pos (.inr h)

/-- A path that is not empty and does not end in a slash opens a directory with one. -/
theorem opened_of_no_slash (hpath : path.bytes ≠ []) (h : path.endsInSlash = false) :
    path.opened = path.bytes ++ [slash] :=
  if_neg (by simp [hpath, h])

/-- Two paths that are not empty open a directory alike exactly if they are the same up to a slash
at the end. -/
theorem opened_eq_iff (hpath : path.bytes ≠ []) (hother : other.bytes ≠ []) :
    path.opened = other.opened ↔ SameDirectory path other := by
  cases hp : path.endsInSlash with
  | true =>
    cases ho : other.endsInSlash with
    | true =>
      rw [opened_of_slash hp, opened_of_slash ho, sameDirectory_iff_eq (hp.trans ho.symm),
        bytes_inj]
    | false =>
      rw [opened_of_slash hp, opened_of_no_slash hother ho]
      exact (sameDirectory_iff_slashed ho hp).symm.trans ⟨.symm, .symm⟩
  | false =>
    cases ho : other.endsInSlash with
    | true =>
      rw [opened_of_no_slash hpath hp, opened_of_slash ho, sameDirectory_iff_slashed hp ho,
        eq_comm]
    | false =>
      rw [opened_of_no_slash hpath hp, opened_of_no_slash hother ho, List.append_left_inj,
        sameDirectory_iff_eq (hp.trans ho.symm), bytes_inj]

/-- A name is the same in two directories exactly if they are the same up to a slash at the end. -/
theorem join_eq_iff (hpath : path.bytes ≠ []) (hother : other.bytes ≠ []) (h : IsName name) :
    path.join ⟨name⟩ = other.join ⟨name⟩ ↔ SameDirectory path other := by
  rw [← opened_eq_iff hpath hother, ← bytes_inj, bytes_join_opened path h,
    bytes_join_opened other h, List.append_left_inj]

end Path

namespace Package

variable {request other : Request} {platform : Platform}

/-- No directory of a request is the empty path. -/
structure Located (request : Request) : Prop where
  sources : request.sources.bytes ≠ []
  programs : request.programs.bytes ≠ []
  libraries : request.libraries.bytes ≠ []

/-- The file of the packing program names an entry. -/
theorem programName_isName (platform : Platform) :
    Path.IsName (Bytes.ofString (platform.programName Plugin.packerStem)) := by
  cases platform <;> decide

/-- The file that is packed names an entry. -/
theorem packedFileName_isName : Path.IsName (Bytes.ofString Plugin.packedFileName) := by
  decide

/-- The file of the library names an entry. -/
theorem libraryName_isName (platform : Platform) :
    Path.IsName (Bytes.ofString platform.libraryName) :=
  Install.Item.fileName_isName .library platform

/-- The nine arguments of the packing program, with the octets of the request in them. -/
def nineArguments (request : Request) (platform : Platform) : List Bytes :=
  [.ofString "--name=CtTheme", .ofString "--version=0.1.0", .ofString "--man=Centaur Project",
   .ofString "--min=0.1.0",
   .ofString "--lib=" ++ (request.libraries.opened ++ .ofString platform.libraryName),
   .ofString "--out=" ++ request.archive.bytes,
   .ofString "--uuid=2df95e88-7eae-5940-ab0d-b53f2df855e2", .ofString "--theme",
   .ofString "--extra=" ++ (request.sources.opened ++ .ofString "dark.theme.json")]

/-- A call has the nine arguments. -/
theorem arguments_plan (request : Request) (platform : Platform) :
    (plan request platform).arguments = nineArguments request platform := by
  have hlibrary := Path.bytes_join_opened request.libraries (libraryName_isName platform)
  have hpacked := Path.bytes_join_opened request.sources packedFileName_isName
  simp only [plan, pathArgument, Path.ofString, hlibrary, hpacked]
  rfl

/-- An argument tells the path that it gives to its option. -/
theorem pathArgument_inj {option : String} {path path' : Path} :
    pathArgument option path = pathArgument option path' ↔ path = path' := by
  rw [pathArgument, pathArgument, List.append_right_inj, Path.bytes_inj]

/-- Two requests whose directories are not empty lead to the same call exactly if they have the same
archive, and the same directories up to slashes at their ends. -/
theorem plan_eq_iff (h : Located request) (h' : Located other) :
    plan request platform = plan other platform ↔
      request.archive = other.archive ∧ request.sources.SameDirectory other.sources ∧
        request.programs.SameDirectory other.programs ∧
        request.libraries.SameDirectory other.libraries := by
  rw [← Path.join_eq_iff h.sources h'.sources packedFileName_isName,
    ← Path.join_eq_iff h.programs h'.programs (programName_isName platform),
    ← Path.join_eq_iff h.libraries h'.libraries (libraryName_isName platform)]
  simp only [plan, Call.mk.injEq, List.cons.injEq, pathArgument_inj, true_and, and_true,
    Platform.programIn, Path.ofString]
  constructor
  · rintro ⟨hprograms, hlibraries, harchive, hsources⟩
    exact ⟨harchive, hsources, hprograms, hlibraries⟩
  · rintro ⟨harchive, hsources, hprograms, hlibraries⟩
    exact ⟨hprograms, hlibraries, harchive, hsources⟩

/-- The packing program, if it is started, gets nine arguments that hold the paths of the request as
they are. Two requests lead to the same call exactly if they have the same archive, and the same
directories up to slashes at their ends. The path of the library in the call is the one that an
installation from the same directory looks at and copies from. -/
theorem plan_carries (request other : Request) (platform : Platform) :
    let call := plan request platform
    (∀ (toErrors : Bool) (world : World) (loaded : Loaded), world.load call = .ok loaded →
      loaded.Serves call.program ∧
      Step.calls (run call toErrors world).steps =
        [⟨loaded.path, loaded.leading ++ nineArguments request platform⟩] ∧
      (run call toErrors world).result = .ok (exitByte (loaded.program
        (loaded.leading ++ nineArguments request platform) world.files).ending.code?)) ∧
    (Located request → Located other → (call = plan other platform ↔
      request.archive = other.archive ∧ request.sources.SameDirectory other.sources ∧
        request.programs.SameDirectory other.programs ∧
        request.libraries.SameDirectory other.libraries)) ∧
    ∀ installation : Install.Request, installation.libraries = request.libraries →
      ∃ path : Path, call.arguments[4]? = some (.ofString "--lib=" ++ path.bytes) ∧
        ∀ (medium : Medium) (dryRun : Bool) (world : World),
          let outcome := Install.runOn medium installation platform dryRun world
          Install.TakesLibrary medium path installation platform dryRun world outcome.result
            outcome.files (Step.deliveries outcome.steps) := by
  intro call
  have hnine : call.arguments = nineArguments request platform := arguments_plan request platform
  refine ⟨fun toErrors world loaded hload => ?_, plan_eq_iff, fun installation hlibraries => ?_⟩
  · obtain ⟨hresult, -, hcalls, -⟩ := (run_ran call toErrors world).started loaded hload
    rw [Loaded.call, hnine] at hcalls
    rw [World.reply, hnine] at hresult
    exact ⟨World.serves_of_load hload, hcalls, hresult⟩
  · refine ⟨Install.Item.library.source installation platform, ?_,
      fun medium => Install.run_takesLibrary medium installation platform⟩
    rw [Install.Item.source, hlibraries]
    rfl

/-- A request with paths that are no text, look like options or are the root. -/
def oddRequest (sources programs : Bytes) : Request where
  archive := ⟨[0xFF, 0x20, 0x22]⟩
  sources := ⟨sources⟩
  programs := ⟨programs⟩
  libraries := ⟨[Path.slash]⟩

/-- A world whose packing program is a script, with an argument for its interpreter. -/
def scriptWorld : World where
  files :=
    { entries :=
        [([], .directory none),
         ([.ofString "bin"], .directory none),
         ([.ofString "bin", .ofString "plpack"], .file 0o755 (.ofString "#!/shell -e\n")),
         ([.ofString "shell"], .file 0o755 (.ofString "shell"))]
      home := [] }
  programs := fun content =>
    if content = .ofString "shell" then some (.scripted [] [] [] (.exited 3)) else none

/-- A script is started with the nine arguments behind its own name, and a slash at the ends of two
directories makes no other call. -/
theorem plan_carries_script :
    let request := oddRequest (.ofString "--lib=") (.ofString "bin")
    let other := oddRequest (.ofString "--lib=/") (.ofString "bin/")
    let call := plan request .linux
    let installation : Install.Request := ⟨.ofString "ct", .ofString "local", ⟨[Path.slash]⟩⟩
    let loaded : Loaded := ⟨.scripted [] [] [] (.exited 3), .ofString "/shell",
      [.ofString "-e", .ofString "bin/plpack"]⟩
    scriptWorld.load call = .ok loaded ∧ Located request ∧ Located other ∧
      installation.libraries = request.libraries ∧
      Step.calls (run call true scriptWorld).steps =
        [⟨.ofString "/shell", [.ofString "-e", .ofString "bin/plpack"] ++
          nineArguments request .linux⟩] ∧
      (run call true scriptWorld).result = .ok 3 ∧ call = plan other .linux ∧
      ∃ path : Path, call.arguments[4]? = some (.ofString "--lib=" ++ path.bytes) ∧
        let outcome := Install.run installation .linux false scriptWorld
        Install.TakesLibrary .sound path installation .linux false scriptWorld outcome.result
          outcome.files (Step.deliveries outcome.steps) := by
  intro request other call installation loaded
  have hload : scriptWorld.load call = .ok loaded := rfl
  have hlocated : Located request := ⟨by decide, by decide, by decide⟩
  have hlocated' : Located other := ⟨by decide, by decide, by decide⟩
  obtain ⟨hstarted, hsame, hlibrary⟩ := plan_carries request other .linux
  obtain ⟨-, hcalls, hresult⟩ := hstarted true scriptWorld loaded hload
  have hslashes : request.sources.SameDirectory other.sources ∧
      request.programs.SameDirectory other.programs :=
    ⟨.inr (.inl ⟨rfl, rfl⟩), .inr (.inl ⟨rfl, rfl⟩)⟩
  obtain ⟨path, hpath, htakes⟩ := hlibrary installation rfl
  exact ⟨hload, hlocated, hlocated', rfl, hcalls, hresult,
    (hsame hlocated hlocated').2 ⟨rfl, hslashes.1, hslashes.2, .inl rfl⟩, path, hpath,
    htakes .sound false scriptWorld⟩

end Package

end ThemeSetup
