import Mathlib.Data.List.Forall2
import MlogHighlight.CommandLine.Run

/-!
# The text of the packaged vocabulary

The packaged vocabulary is what its text is parsed to, so it does not matter that the program has the
sets and not the text. The text is long. What its strings and those of the sets are character by
character is settled first, one string at a time, and only lists of characters are left to be
compared when the text is parsed. Main facts:

* `source`: the text;
* `Spelled.texts_eq`: strings, character by character;
* `parse_source`: the text is parsed to the packaged vocabulary;
* `load_source`: so is every file that has the text;
* `CommandLine.fulfil_source`: to name such a file is to name none.
-/

namespace MlogHighlight

namespace Vocabulary

/-! ## The text -/

/-- The lines of the text. -/
def sourceLines : List String := [
  "# Vocabulary of mlog, the Mindustry logic processor language.",
  "#",
  "# Each set is declared as",
  "#",
  "#   NAME : CATEGORY [TRANSFORM] \x7b WORD ... \x7d",
  "#",
  "# where TRANSFORM is one of none (the default), sigil or content.",
  "# Sets are tried in the order they are declared in; a word found in",
  "# more than one set gets the category of the first.",
  "",
  "keywords : keyword \x7b",
  "  # I/O",
  "  read write draw print printchar format drawflush printflush",
  "  # block control",
  "  getlink control radar sensor",
  "  # operations",
  "  set op lookup packcolor unpackcolor select",
  "  # flow control",
  "  wait stop end jump",
  "  # unit control",
  "  ubind ucontrol uradar ulocate",
  "  noop",
  "  # world processor",
  "  getblock setblock spawn status spawnwave setrule message cutscene",
  "  effect explosion setrate fetch sync clientdata getflag setflag",
  "  setprop playsound setmarker makemarker localeprint weathersense",
  "  weatherset",
  "\x7d",
  "",
  "operations : builtin \x7b",
  "  # op",
  "  add sub mul div idiv mod emod pow equal notEqual land lessThan",
  "  lessThanEq greaterThan greaterThanEq strictEqual shl shr ushr or and",
  "  xor not max min angle angleDiff len noise abs sign log logn log10",
  "  floor ceil round sqrt rand sin cos tan asin acos atan",
  "  # jump",
  "  always",
  "  # draw",
  "  clear color col stroke line rect lineRect poly linePoly triangle",
  "  image translate scale rotate reset",
  "  # control",
  "  enabled shoot shootp config",
  "  # radar & uradar",
  "  any enemy ally player attacker flying boss ground",
  "  distance health shield armor maxHealth",
  "  # ucontrol",
  "  idle move approach pathfind autoPathfind boost target targetp",
  "  itemDrop itemTake payDrop payTake payEnter mine flag build getBlock",
  "  within unbind",
  "  # ulocate",
  "  building ore damaged core storage generator turret factory repair",
  "  battery reactor",
  "  # lookup",
  "  block unit item liquid team",
  "\x7d",
  "",
  "globals : variable \x7b",
  "  @this @thisx @thisy @ipt @counter @links @time @tick @second",
  "  @minute @unit @waveNumber @waveTime @mapw @maph",
  "  @server @client @clientLocale @clientUnit @clientName @clientTeam",
  "  @clientMobile",
  "\x7d",
  "",
  "constants : constant \x7b",
  "  true false null",
  "  @pi @e @degToRad @radToDeg",
  "\x7d",
  "",
  "sensors : builtin \x7b",
  "  @totalItems @firstItem @totalLiquids @totalPower @itemCapacity",
  "  @liquidCapacity @powerCapacity @powerNetStored @powerNetCapacity",
  "  @powerNetIn @powerNetOut @ammo @totalAmmo @ammoCapacity @health",
  "  @maxHealth @heat @shield @armor @efficiency @progress @timescale",
  "  @rotation @x @y @velocityX @velocityY @shootX @shootY @cameraX",
  "  @cameraY @cameraWidth @cameraHeight @size @solid @dead @range",
  "  @shooting @boosting @mineX @mineY @mining @speed @team @type @flag",
  "  @controlled @controller @name @payloadCount @payloadType",
  "  @totalPayload @payloadCapacity @enabled @config @color",
  "  # items",
  "  @copper @lead @metaglass @graphite @sand @coal @titanium @thorium",
  "  @scrap @silicon @plastanium @phase-fabric @surge-alloy @spore-pod",
  "  @blast-compound @pyratite @beryllium @tungsten @oxide @carbide",
  "  @fissile-matter @dormant-cyst",
  "  # liquids",
  "  @water @slag @oil @cryofluid @neoplasm @arkycite @gallium @ozone",
  "  @hydrogen @nitrogen @cyanogen",
  "\x7d",
  "",
  "units : type sigil \x7b",
  "  dagger mace fortress scepter reign",
  "  nova pulsar quasar vela corvus",
  "  crawler atrax spiroct arkyid toxopid",
  "  flare horizon zenith antumbra eclipse",
  "  mono poly mega quad oct",
  "  risso minke bryde sei omura",
  "  retusa oxynoe cyerce aegires navanax",
  "  alpha beta gamma",
  "  stell locus precept vanquish conquer",
  "  merui cleroi anthicus tecta collaris",
  "  elude avert obviate quell disrupt",
  "  evoke incite emanate",
  "\x7d",
  "",
  "blocks : type content \x7b",
  "  # distribution",
  "  Conveyor \"Titanium Conveyor\" \"Plastanium Conveyor\" \"Armored Conveyor\"",
  "  Junction \"Bridge Conveyor\" \"Phase Conveyor\" Sorter \"Inverted Sorter\"",
  "  Router Distributor \"Overflow Gate\" \"Underflow Gate\" \"Mass Driver\"",
  "  Duct \"Duct Router\" \"Duct Bridge\" Unloader",
  "  # production",
  "  \"Mechanical Drill\" \"Pneumatic Drill\" \"Laser Drill\" \"Blast Drill\"",
  "  \"Water Extractor\" Cultivator \"Oil Extractor\"",
  "  # crafting",
  "  \"Graphite Press\" \"Multi Press\" \"Silicon Smelter\" \"Silicon Crucible\"",
  "  Kiln \"Plastanium Compressor\" \"Phase Weaver\" \"Surge Smelter\"",
  "  \"Cryofluid Mixer\" \"Pyratite Mixer\" \"Blast Mixer\" Melter Separator",
  "  Disassembler \"Spore Press\" Pulverizer \"Coal Centrifuge\" Incinerator",
  "  # defense",
  "  \"Copper Wall\" \"Copper Wall Large\" \"Titanium Wall\" \"Titanium Wall Large\"",
  "  \"Plastanium Wall\" \"Plastanium Wall Large\" \"Thorium Wall\"",
  "  \"Thorium Wall Large\" \"Phase Wall\" \"Phase Wall Large\" \"Surge Wall\"",
  "  \"Surge Wall Large\" Door \"Door Large\" \"Scrap Wall\"",
  "  Mender \"Mend Projector\" \"Overdrive Projector\" \"Overdrive Dome\"",
  "  \"Force Projector\" \"Shock Mine\"",
  "  # turrets",
  "  Duo Scatter Scorch Hail Wave Lancer Arc Parallax Swarmer Salvo",
  "  Segment Tsunami Fuse Ripple Cyclone Foreshadow Spectre Meltdown",
  "  # units",
  "  \"Ground Factory\" \"Air Factory\" \"Naval Factory\"",
  "  \"Additive Reconstructor\" \"Multiplicative Reconstructor\"",
  "  \"Exponential Reconstructor\" \"Tetrative Reconstructor\"",
  "  \"Repair Point\" \"Repair Turret\"",
  "  # liquid",
  "  \"Mechanical Pump\" \"Rotary Pump\" \"Impulse Pump\" Conduit",
  "  \"Pulse Conduit\" \"Plated Conduit\" \"Liquid Router\" \"Liquid Container\"",
  "  \"Liquid Tank\" \"Liquid Junction\" \"Bridge Conduit\" \"Phase Conduit\"",
  "  # power",
  "  \"Power Node\" \"Power Node Large\" \"Surge Tower\" Diode Battery",
  "  \"Battery Large\" \"Combustion Generator\" \"Thermal Generator\"",
  "  \"Steam Generator\" \"Differential Generator\" \"RTG Generator\"",
  "  \"Solar Panel\" \"Solar Panel Large\" \"Thorium Reactor\" \"Impact Reactor\"",
  "  # storage",
  "  \"Core Shard\" \"Core Foundation\" \"Core Nucleus\" Vault Container",
  "  \"Launch Pad\"",
  "  # logic",
  "  Message Switch \"Micro Processor\" \"Logic Processor\" \"Hyper Processor\"",
  "  \"Memory Cell\" \"Memory Bank\" \"Logic Display\" \"Large Logic Display\"",
  "  Illuminator \"World Processor\" \"World Cell\" \"World Message\"",
  "\x7d"]

/-- The text of the packaged vocabulary. -/
def source : Text := (Packaged.texts sourceLines).flatMap Text.endLine

/-! ## Strings as texts -/

/-- The strings have the characters of the texts. -/
def Spelled (strings : List String) (texts : List Text) : Prop :=
  List.Forall₂ (fun string text => string = String.ofList text) strings texts

theorem Spelled.texts_eq {strings : List String} {texts : List Text} (h : Spelled strings texts) :
    Packaged.texts strings = texts := by
  induction h with
  | nil => rfl
  | cons hstring _ ih =>
    rw [Packaged.texts, List.map_cons, hstring, String.toList_ofList]
    exact congrArg _ ih

/-- A set that is given by strings. -/
theorem set_of_spelled {name category transform : String} {words : List String}
    {name' category' transform' : Text} {words' : List Text} (hname : name = String.ofList name')
    (hcategory : category = String.ofList category')
    (htransform : transform = String.ofList transform') (hwords : Spelled words words') :
    (⟨name.toList, category.toList, transform.toList, Packaged.texts words⟩ : VocabularySet) =
      ⟨name', category', transform', words'⟩ := by
  rw [hwords.texts_eq, hname, hcategory, htransform]
  simp only [String.toList_ofList]

/-- What a text is parsed to can be told from the characters of its lines and of the sets. -/
theorem parse_of_spelled {lines : List String} {lines' : List Text} {sets sets' : Vocabulary}
    (hlines : Spelled lines lines') (hsets : List.Forall₂ Eq sets sets')
    (hparse : parse (lines'.flatMap Text.endLine) = .ok sets') :
    parse ((Packaged.texts lines).flatMap Text.endLine) = .ok sets := by
  rw [List.forall₂_eq_eq_eq] at hsets
  rw [hlines.texts_eq, hparse, hsets]

/-! ## Parsing the text -/

set_option maxRecDepth 10000 in
/-- The packaged vocabulary is what its text says. -/
theorem parse_source : parse source = .ok packaged := by
  unfold source
  apply parse_of_spelled
  -- a string literal is made of its characters by definition, so `rfl` finds them: line by line, and
  -- set by set and word by word
  case hlines =>
    dsimp only [sourceLines, Spelled]
    repeat (apply List.Forall₂.cons; exact rfl)
    exact .nil
  case hsets =>
    dsimp only [packaged, Packaged.keywords, Packaged.operations, Packaged.globals,
      Packaged.constants, Packaged.sensors, Packaged.units, Packaged.blocks]
    repeat'
      first
      | apply set_of_spelled rfl rfl rfl
      | apply List.Forall₂.cons
      | exact List.Forall₂.nil
      | exact rfl
  case hparse => decide +kernel

/-- A file with the text holds the packaged vocabulary. -/
theorem load_source {fs : FileSystem} {path : Text} (h : fs.read path = .ok source) :
    load fs path = .ok packaged := by
  have hload : load fs path = (parse source).mapError (.malformed path) := by
    rw [load, h]
  rw [hload, parse_source]
  rfl

/-- A file with the text may as well not be given. -/
theorem loadOrPackaged_source {fs : FileSystem} {path : Text} (h : fs.read path = .ok source) :
    loadOrPackaged fs (some path) = loadOrPackaged fs none := by
  cases path with
  | nil => rfl
  | cons c path => exact load_source h

end Vocabulary

namespace CommandLine

/-- Unless the program is to log what it loads, it makes no difference whether a file with the text
of the packaged vocabulary is given or none. -/
theorem fulfil_source {r : Request} (quiet : r.verbose = false) {world : World} {path : Text}
    (h : world.files.read path = .ok Vocabulary.source) :
    fulfil { r with vocab := some path } world = fulfil { r with vocab := none } world := by
  have htable : ({ r with vocab := some path } : Request).table world.files =
      ({ r with vocab := none } : Request).table world.files := by
    unfold Request.table
    rw [Vocabulary.loadOrPackaged_source h]
    simp only [quiet]
    rfl
  unfold fulfil
  rw [htable]
  rfl

end CommandLine

end MlogHighlight
