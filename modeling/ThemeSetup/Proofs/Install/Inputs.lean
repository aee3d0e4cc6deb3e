import ThemeSetup.Proofs.Files.Octets
import ThemeSetup.Proofs.Install.Turn

/-!
# When an installation keeps its own inputs

The sources of an installation can lie where it writes: in the directories of the host, or behind
links into them. `InputsIntact` says that a run leaves the octets of both sources as they were when
the directories were there, and that whatever it reports as copied is at its source and at its
target when the run is over. This holds exactly if no delivery spoils a source, or a target that
was copied to before, and none goes to a device (`inputsIntact_iff`). An item that is copied over
itself is spoiled, so it need not hold (`not_inputsIntact`).

The runs here are those where no copy is broken off; what a copy that is broken off leaves is in
`ThemeSetup.Proofs.Install.FailedCopy`.
-/

namespace ThemeSetup.Install

/-- An installation that delivers this, and leaves these files, keeps its own inputs. -/
structure InputsIntact (request : Request) (platform : Platform) (world : World)
    (final : FileSystem) (deliveries : List Delivery) : Prop where
  /-- The files that the sources lead to when the directories are there keep their octets. -/
  kept : ∀ {layout : Layout} {item : Item} {location : Location} {mode : Mode} {content : Bytes},
    (opening request platform world).result = .ok layout →
    (opening request platform world).files.resolve .use (item.source request platform) =
      .ok (.found location) →
    (opening request platform world).files.node? location = some (.file mode content) →
    ∃ mode', final.node? location = some (.file mode' content)
  /-- What is reported as copied is still at the source, and it is at the target. -/
  copied : ∀ {delivery : Delivery} {size : Nat},
    delivery ∈ deliveries → delivery.status = .copied size →
    ∃ content,
      (upTo request platform delivery.item world).files.octets? delivery.source = some content ∧
      final.octets? delivery.source = some content ∧
      final.octets? delivery.target = some content ∧ size = content.length

/-- The paths that are to keep their octets when an item is delivered: both sources, and the targets
of what was copied before. -/
inductive AtStake (request : Request) (platform : Platform) (world : World) (item : Item) :
    Path → Prop
  | source (other : Item) : AtStake request platform world item (other.source request platform)
  | target {delivery : Delivery} {size : Nat} :
      delivery ∈ Step.deliveries (upTo request platform item world).steps →
      delivery.status = .copied size → AtStake request platform world item delivery.target

/-- No delivery whose turn comes spoils a path at stake, and none goes to a device. -/
structure InputsSpared (request : Request) (platform : Platform) (world : World) : Prop where
  unspoiled : ∀ {layout : Layout} {item : Item} {path : Path},
    (upTo request platform item world).result = .ok layout →
    AtStake request platform world item path →
    ¬ (upTo request platform item world).files.Spoils (item.source request platform)
      (item.target layout platform) path
  no_device : ∀ {layout : Layout} {item : Item},
    (upTo request platform item world).result = .ok layout →
    ¬ (upTo request platform item world).files.ToDevice (item.source request platform)
      (item.target layout platform)

variable {request : Request} {platform : Platform} {world : World} {layout : Layout}

/-! ## Two turns -/

section
variable {ready between final : FileSystem} {source target source' target' : Path}
  {size size' : Option Nat}

/-- Two turns, the first of which finds its source, keep two sources and report what is there. -/
structure TurnsIntact (ready between final : FileSystem) (source target source' target' : Path)
    (size size' : Option Nat) : Prop where
  kept : ∀ content, ready.octets? source = some content → final.octets? source = some content
  kept' : ∀ content, ready.octets? source' = some content → final.octets? source' = some content
  copied : ∀ count, size = some count → ∃ content, ready.octets? source = some content ∧
    final.octets? source = some content ∧ final.octets? target = some content ∧
    count = content.length
  copied' : ∀ count, size' = some count → ∃ content, between.octets? source' = some content ∧
    final.octets? source' = some content ∧ final.octets? target' = some content ∧
    count = content.length

/-- Two turns spoil neither source nor what was copied, and nothing goes to a device. -/
structure TurnsSpared (ready between : FileSystem) (source target source' target' : Path)
    (size : Option Nat) : Prop where
  own : ¬ ready.Spoils source target source
  other : ¬ ready.Spoils source target source'
  device : ¬ ready.ToDevice source target
  own' : ¬ between.Spoils source' target' source'
  other' : ¬ between.Spoils source' target' source
  before' : size ≠ none → ¬ between.Spoils source' target' target
  device' : ¬ between.ToDevice source' target'

/-- Two turns that spoil nothing keep everything. -/
theorem TurnsSpared.intact (h : TurnsSpared ready between source target source' target' size)
    (hfirst : FileSystem.Turn ready source target size between)
    (hsecond : FileSystem.Turn between source' target' size' final) :
    TurnsIntact ready between final source target source' target' size size' where
  kept content hready :=
    (hsecond.octets?_iff ((hfirst.octets?_iff hready).2 h.own)).2 h.other'
  kept' content hready :=
    (hsecond.octets?_iff ((hfirst.octets?_iff hready).2 h.other)).2 h.own'
  copied count hcount := by
    have hbefore' := h.before' (by simp [hcount])
    cases hfirst with
    | none => cases hcount
    | copy hcopies =>
      cases hcount
      obtain ⟨content, hread, hsound⟩ := hcopies.sound
      obtain ⟨htarget, hsize⟩ := hsound h.own h.device
      have hsource := (hcopies.octets?_iff hread).2 h.own
      exact ⟨content, hread, (hsecond.octets?_iff hsource).2 h.other',
        (hsecond.octets?_iff htarget).2 hbefore', hsize⟩
  copied' count hcount := by
    cases hsecond with
    | none => cases hcount
    | copy hcopies =>
      cases hcount
      obtain ⟨content, hread, hsound⟩ := hcopies.sound
      obtain ⟨htarget, hsize⟩ := hsound h.own' h.device'
      exact ⟨content, hread, (hcopies.octets?_iff hread).2 h.own', htarget, hsize⟩

/-- Two turns that keep everything spoil nothing. -/
theorem TurnsIntact.spared
    (h : TurnsIntact ready between final source target source' target' size size')
    (hfirst : FileSystem.Turn ready source target size between)
    (hsecond : FileSystem.Turn between source' target' size' final)
    (hsource : ∃ content, ready.octets? source = some content) :
    TurnsSpared ready between source target source' target' size := by
  -- The second turn spares its own source: it reports as many octets as there were.
  have hown' : ¬ between.Spoils source' target' source' ∧ ¬ between.ToDevice source' target' := by
    cases hsecond with
    | none herror => exact ⟨FileSystem.not_spoils_of_error herror,
        FileSystem.not_toDevice_of_error herror⟩
    | copy hcopies =>
      obtain ⟨content, hread, -, htarget, hsize⟩ := h.copied' _ rfl
      exact hcopies.spares_source (.refl final) hread htarget hsize
  -- So does the first, whose target may have been written to again.
  have hown : ¬ ready.Spoils source target source ∧ ¬ ready.ToDevice source target := by
    cases hfirst with
    | none herror => exact ⟨FileSystem.not_spoils_of_error herror,
        FileSystem.not_toDevice_of_error herror⟩
    | copy hcopies =>
      obtain ⟨content, hread, -, htarget, hsize⟩ := h.copied _ rfl
      exact hcopies.spares_source hsecond.grows hread htarget hsize
  refine ⟨hown.1, fun hspoils => ?_, hown.2, hown'.1, ?_, fun hcopied => ?_, hown'.2⟩
  · -- What the first turn changes at the second source stays changed.
    obtain ⟨content, hready⟩ := hspoils.octets?
    obtain ⟨content', hbetween⟩ := hfirst.grows.octets? hready
    have hfinal := (hsecond.octets?_iff hbetween).2 hown'.1
    rw [h.kept' content hready] at hfinal
    cases hfinal
    exact (hfirst.octets?_iff hready).1 hbetween hspoils
  · obtain ⟨content, hready⟩ := hsource
    have hbetween := (hfirst.octets?_iff hready).2 hown.1
    exact (hsecond.octets?_iff hbetween).1 (h.kept content hready)
  · cases hfirst with
    | none => exact absurd rfl hcopied
    | copy hcopies =>
      obtain ⟨content, hread, -, hfinal, -⟩ := h.copied _ rfl
      obtain ⟨content', hread', hsound⟩ := hcopies.sound
      rw [hread] at hread'
      cases hread'
      exact (hsecond.octets?_iff (hsound hown.1 hown.2).1).1 hfinal

end

/-! ## The turns of an installation -/

section
variable {theme : Delivery} {between final : FileSystem}

/-- An installation whose library has its turn spares its inputs exactly if its turns do. -/
theorem inputsSpared_iff (hopening : (opening request platform world).result = .ok layout)
    (htheme : (opening request platform world).files.isFile
      (Item.themeFile.source request platform) = true)
    (hdelivered : delivered .sound request platform layout .themeFile
      (opening request platform world).files = (theme, between)) :
    InputsSpared request platform world ↔
      TurnsSpared (opening request platform world).files between
        (Item.themeFile.source request platform) (Item.themeFile.target layout platform)
        (Item.library.source request platform) (Item.library.target layout platform)
        theme.status.size? := by
  obtain ⟨hturn, hbetween, hbefore⟩ := upToOn_library hopening htheme hdelivered
  rw [← upTo] at hturn hbetween hbefore
  have hway := delivered_way hdelivered
  simp only [Delivery.way, Item.way, Prod.mk.injEq] at hway
  constructor
  · intro h
    have hfirst : (upTo request platform .themeFile world).result = .ok layout := hopening
    have hlibrary : ∀ {path}, AtStake request platform world .library path →
        ¬ between.Spoils (Item.library.source request platform)
          (Item.library.target layout platform) path :=
      fun hstake => hbetween ▸ h.unspoiled hturn hstake
    refine ⟨h.unspoiled hfirst (.source .themeFile), h.unspoiled hfirst (.source .library),
      h.no_device hfirst, hlibrary (.source .library), hlibrary (.source .themeFile),
      fun hcopied => ?_, hbetween ▸ h.no_device hturn⟩
    obtain ⟨size, hsize⟩ := Option.ne_none_iff_exists'.1 hcopied
    rw [← hway.2.2]
    exact hlibrary (.target (by rw [hbefore]; exact List.mem_singleton_self theme)
      (Status.size?_eq_some.1 hsize))
  · intro h
    refine ⟨fun {layout' item path} hresult hstake => ?_, fun {layout' item} hresult => ?_⟩
    · cases item with
      | themeFile =>
        obtain rfl : layout' = layout := Except.ok.inj (hresult.symm.trans hopening)
        cases hstake with
        | source other =>
          cases other with
          | themeFile => exact h.own
          | library => exact h.other
        | target hmem =>
          rw [upTo, upToOn, opening_delivers request platform world] at hmem
          cases hmem
      | library =>
        obtain rfl : layout' = layout := Except.ok.inj (hresult.symm.trans hturn)
        rw [hbetween]
        cases hstake with
        | source other =>
          cases other with
          | themeFile => exact h.other'
          | library => exact h.own'
        | target hmem hstatus =>
          rw [hbefore, List.mem_singleton] at hmem
          subst hmem
          rw [hway.2.2]
          exact h.before' (by simp [Status.size?_eq_some.2 hstatus])
    · cases item with
      | themeFile =>
        obtain rfl : layout' = layout := Except.ok.inj (hresult.symm.trans hopening)
        exact h.device
      | library =>
        obtain rfl : layout' = layout := Except.ok.inj (hresult.symm.trans hturn)
        rw [hbetween]
        exact h.device'

/-- An installation that delivers the theme file, and then the library or nothing, keeps its inputs
exactly if its turns do. -/
theorem inputsIntact_iff_turns {size : Option Nat} {deliveries : List Delivery}
    (hopening : (opening request platform world).result = .ok layout)
    (htheme : (opening request platform world).files.isFile
      (Item.themeFile.source request platform) = true)
    (hdelivered : delivered .sound request platform layout .themeFile
      (opening request platform world).files = (theme, between))
    (hgrows : (opening request platform world).files.Grows final)
    (hmem : theme ∈ deliveries)
    (hall : ∀ delivery ∈ deliveries, delivery = theme ∨
      delivery.way = Item.library.way request platform layout ∧ delivery.status.size? = size)
    (hlibrary : ∀ count, size = some count → ∃ delivery ∈ deliveries,
      delivery.way = Item.library.way request platform layout ∧
        delivery.status.size? = some count) :
    InputsIntact request platform world final deliveries ↔
      TurnsIntact (opening request platform world).files between final
        (Item.themeFile.source request platform) (Item.themeFile.target layout platform)
        (Item.library.source request platform) (Item.library.target layout platform)
        theme.status.size? size := by
  obtain ⟨-, hbetween, -⟩ := upToOn_library hopening htheme hdelivered
  rw [← upTo] at hbetween
  have hway := delivered_way hdelivered
  simp only [Delivery.way, Item.way, Prod.mk.injEq] at hway hall hlibrary
  obtain ⟨hitem, hsource, htarget⟩ := hway
  constructor
  · intro h
    have hkept : ∀ (item : Item) (content : Bytes),
        (opening request platform world).files.octets? (item.source request platform) =
          some content → final.octets? (item.source request platform) = some content := by
      intro item content hoctets
      obtain ⟨location, mode, hfound, hnode⟩ := FileSystem.octets?_eq_some.1 hoctets
      exact (hgrows.octets?_iff hfound).2 (h.kept hopening hfound hnode)
    refine ⟨hkept .themeFile, hkept .library, fun count hcount => ?_, fun count hcount => ?_⟩
    · have hcopied := h.copied hmem (Status.size?_eq_some.1 hcount)
      rw [hitem, hsource, htarget] at hcopied
      exact hcopied
    · obtain ⟨delivery, hdelivery, ⟨hitem', hsource', htarget'⟩, hstatus⟩ := hlibrary count hcount
      have hcopied := h.copied hdelivery (Status.size?_eq_some.1 hstatus)
      rw [hitem', hsource', htarget', hbetween] at hcopied
      exact hcopied
  · intro h
    refine ⟨fun {layout' item location mode content} _ hfound hnode => ?_,
      fun {delivery count} hdelivery hstatus => ?_⟩
    · rw [← hgrows.octets?_iff hfound]
      have hoctets := FileSystem.octets?_eq_some.2 ⟨location, mode, hfound, hnode⟩
      cases item with
      | themeFile => exact h.kept content hoctets
      | library => exact h.kept' content hoctets
    · rcases hall delivery hdelivery with rfl | ⟨⟨hitem', hsource', htarget'⟩, hsize⟩
      · rw [hitem, hsource, htarget]
        exact h.copied count (Status.size?_eq_some.2 hstatus)
      · rw [hitem', hsource', htarget', hbetween]
        exact h.copied' count (hsize ▸ Status.size?_eq_some.2 hstatus)

/-- What is no regular file cannot be copied. -/
theorem copyFile_of_not_isFile {fs : FileSystem} {source : Path} (medium : Medium) (target : Path)
    (h : fs.isFile source = false) :
    ∃ error, fs.copyFile medium source target = (.error error, fs) := by
  unfold FileSystem.copyFile
  cases hsource : fs.openSource source with
  | error error => exact ⟨error, rfl⟩
  | ok read =>
    obtain ⟨hfound, hnode, -⟩ := FileSystem.openSource_eq_ok.1 hsource
    rw [FileSystem.isFile_iff.2 ⟨_, _, _, hfound, hnode⟩] at h
    cases h

/-- On every way that it goes an installation keeps its inputs exactly if it spares them. -/
theorem Course.keeps_iff {result : Except Failure Report} {deliveries : List Delivery}
    (h : Course .sound request platform world result final deliveries) :
    InputsIntact request platform world final deliveries ↔
      InputsSpared request platform world := by
  cases h with
  | unopened hopening =>
    refine iff_of_true ⟨fun hresult => ?_, fun hmem => by cases hmem⟩
      ⟨fun hresult => ?_, fun hresult => ?_⟩
    · rw [hopening] at hresult
      cases hresult
    all_goals
      rw [upTo, upToOn_unopened .sound hopening] at hresult
      cases hresult
  | themeMissing hopening htheme =>
    refine iff_of_true ⟨fun _ _ hnode => ⟨_, hnode⟩, fun hmem => by cases hmem⟩
      ⟨fun {layout' item path} hresult _ => ?_, fun {layout' item} hresult => ?_⟩
    all_goals
      cases item with
      | library =>
        rw [upTo, upToOn_themeMissing .sound hopening htheme] at hresult
        cases hresult
      | themeFile =>
        obtain ⟨error, herror⟩ :=
          copyFile_of_not_isFile .sound (Item.themeFile.target layout' platform) htheme
        first
          | exact FileSystem.not_spoils_of_error herror
          | exact FileSystem.not_toDevice_of_error herror
  | @libraryMissing layout theme between hopening htheme hdelivered hlibrary =>
    obtain ⟨root, -, rfl, hthere⟩ := opening_ok hopening
    have hfirst := delivered_turn (hthere .themeFile) hdelivered
    obtain ⟨error, herror⟩ :=
      copyFile_of_not_isFile .sound (Item.library.target (.ofRoot root) platform) hlibrary
    have hsecond := FileSystem.Turn.none herror
    rw [inputsSpared_iff hopening htheme hdelivered, inputsIntact_iff_turns hopening htheme
      hdelivered hfirst.grows (List.mem_singleton_self theme)
      (fun delivery hmem => .inl (List.mem_singleton.1 hmem))
      (fun count (hcount : none = some count) => by cases hcount)]
    exact ⟨fun h => h.spared hfirst hsecond (FileSystem.octets?_of_isFile htheme),
      fun h => h.intact hfirst hsecond⟩
  | @complete layout theme library between _ hopening htheme hdelivered _ hdelivered' =>
    obtain ⟨root, -, rfl, hthere⟩ := opening_ok hopening
    obtain ⟨-, hfirst, hsecond⟩ := delivered_turns hthere hdelivered hdelivered'
    have hway := delivered_way hdelivered'
    rw [inputsSpared_iff hopening htheme hdelivered, inputsIntact_iff_turns hopening htheme
      hdelivered (hfirst.grows.trans hsecond.grows) List.mem_cons_self
      (fun delivery hmem => by
        simp only [List.mem_cons, List.not_mem_nil, or_false] at hmem
        rcases hmem with rfl | rfl
        · exact .inl rfl
        · exact .inr ⟨hway, rfl⟩)
      (fun count hcount => ⟨library, by simp, hway, hcount⟩)]
    exact ⟨fun h => h.spared hfirst hsecond (FileSystem.octets?_of_isFile htheme),
      fun h => h.intact hfirst hsecond⟩

end

/-- An installation keeps its own inputs, and reports as copied what is at source and target,
exactly if no delivery spoils a source or what was copied before, and none goes to a device. -/
theorem inputsIntact_iff (request : Request) (platform : Platform) (world : World) :
    InputsIntact request platform world (run request platform false world).files
        (Step.deliveries (run request platform false world).steps) ↔
      InputsSpared request platform world :=
  (run_course request platform world).keeps_iff

/-! ## A theme file that is copied over itself -/

/-- A request whose theme file is the one in the host's own directory. -/
def ownRequest : Request where
  helpers := .ofString "ct"
  sources := .ofString ("host/Plugins/extra/" ++ Plugin.uuid)
  libraries := .ofString "lib"

/-- A world with a theme file in the host's directory, a library and a helper that names the
host. -/
def ownWorld : World where
  files :=
    { entries :=
        [([], .directory none),
         ([Bytes.ofString "ct"], .directory none),
         ([Bytes.ofString "ct", Bytes.ofString "ctpath"], .file 0o755 (Bytes.ofString "helper")),
         ([Bytes.ofString "lib"], .directory none),
         ([Bytes.ofString "lib", Bytes.ofString "libCentTheme.so"],
           .file 0o644 (Bytes.ofString "lib")),
         ([Bytes.ofString "host"], .directory none),
         ([Bytes.ofString "host", Bytes.ofString "Plugins"], .directory none),
         ([Bytes.ofString "host", Bytes.ofString "Plugins", Bytes.ofString "extra"],
           .directory none),
         ([Bytes.ofString "host", Bytes.ofString "Plugins", Bytes.ofString "extra",
           Bytes.ofString Plugin.uuid], .directory none),
         ([Bytes.ofString "host", Bytes.ofString "Plugins", Bytes.ofString "extra",
           Bytes.ofString Plugin.uuid, Bytes.ofString Plugin.themeFileName],
           .file 0o644 (Bytes.ofString "self"))]
      home := [] }
  programs := HostRoot.soleHelper "host\n"

/-- A theme file that is copied over itself is emptied, and reported as copied. -/
theorem not_inputsIntact : ¬ InputsIntact ownRequest .linux ownWorld
    (run ownRequest .linux false ownWorld).files
    (Step.deliveries (run ownRequest .linux false ownWorld).steps) := by
  intro h
  have hmem : ⟨.themeFile, Item.themeFile.source ownRequest .linux,
      Item.themeFile.source ownRequest .linux, .copied 0⟩ ∈
    Step.deliveries (run ownRequest .linux false ownWorld).steps := by decide +kernel
  obtain ⟨content, hbefore, hfinal, -, -⟩ := h.copied hmem rfl
  have hread : (upTo ownRequest .linux .themeFile ownWorld).files.octets?
      (Item.themeFile.source ownRequest .linux) = some (Bytes.ofString "self") := by
    decide +kernel
  have hempty : (run ownRequest .linux false ownWorld).files.octets?
      (Item.themeFile.source ownRequest .linux) = some [] := by
    decide +kernel
  rw [hread] at hbefore
  rw [hempty, ← hbefore] at hfinal
  exact absurd hfinal (by decide)

end ThemeSetup.Install
