import MlogHighlight.Vocabulary.Basic

/-!
# The packaged vocabulary

The words of mlog, the language of logic processors, in seven sets. No word is in two of them.
-/

namespace MlogHighlight.Vocabulary.Packaged

/-- The words of a list of literals. -/
def texts (words : List String) : List Text := words.map String.toList

/-- The instructions. -/
def keywords : VocabularySet where
  name := "keywords"
  category := "keyword"
  transform := "none"
  words := texts [
    -- I/O
    "read", "write", "draw", "print", "printchar", "format", "drawflush", "printflush",
    -- block control
    "getlink", "control", "radar", "sensor",
    -- operations
    "set", "op", "lookup", "packcolor", "unpackcolor", "select",
    -- flow control
    "wait", "stop", "end", "jump",
    -- unit control
    "ubind", "ucontrol", "uradar", "ulocate", "noop",
    -- world processor
    "getblock", "setblock", "spawn", "status", "spawnwave", "setrule", "message", "cutscene",
    "effect", "explosion", "setrate", "fetch", "sync", "clientdata", "getflag", "setflag",
    "setprop", "playsound", "setmarker", "makemarker", "localeprint", "weathersense",
    "weatherset"]

/-- What instructions do: operations, conditions, properties and orders. -/
def operations : VocabularySet where
  name := "operations"
  category := "builtin"
  transform := "none"
  words := texts [
    -- op
    "add", "sub", "mul", "div", "idiv", "mod", "emod", "pow", "equal", "notEqual", "land",
    "lessThan", "lessThanEq", "greaterThan", "greaterThanEq", "strictEqual", "shl", "shr",
    "ushr", "or", "and", "xor", "not", "max", "min", "angle", "angleDiff", "len", "noise", "abs",
    "sign", "log", "logn", "log10", "floor", "ceil", "round", "sqrt", "rand", "sin", "cos",
    "tan", "asin", "acos", "atan",
    -- jump
    "always",
    -- draw
    "clear", "color", "col", "stroke", "line", "rect", "lineRect", "poly", "linePoly",
    "triangle", "image", "translate", "scale", "rotate", "reset",
    -- control
    "enabled", "shoot", "shootp", "config",
    -- radar & uradar
    "any", "enemy", "ally", "player", "attacker", "flying", "boss", "ground", "distance",
    "health", "shield", "armor", "maxHealth",
    -- ucontrol
    "idle", "move", "approach", "pathfind", "autoPathfind", "boost", "target", "targetp",
    "itemDrop", "itemTake", "payDrop", "payTake", "payEnter", "mine", "flag", "build",
    "getBlock", "within", "unbind",
    -- ulocate
    "building", "ore", "damaged", "core", "storage", "generator", "turret", "factory", "repair",
    "battery", "reactor",
    -- lookup
    "block", "unit", "item", "liquid", "team"]

/-- The variables of the processor and of the world. -/
def globals : VocabularySet where
  name := "globals"
  category := "variable"
  transform := "none"
  words := texts [
    "@this", "@thisx", "@thisy", "@ipt", "@counter", "@links", "@time", "@tick", "@second",
    "@minute", "@unit", "@waveNumber", "@waveTime", "@mapw", "@maph", "@server", "@client",
    "@clientLocale", "@clientUnit", "@clientName", "@clientTeam", "@clientMobile"]

/-- The constants. -/
def constants : VocabularySet where
  name := "constants"
  category := "constant"
  transform := "none"
  words := texts [
    "true", "false", "null", "@pi", "@e", "@degToRad", "@radToDeg"]

/-- What can be read with a sensor: properties, items and liquids. -/
def sensors : VocabularySet where
  name := "sensors"
  category := "builtin"
  transform := "none"
  words := texts [
    -- properties
    "@totalItems", "@firstItem", "@totalLiquids", "@totalPower", "@itemCapacity",
    "@liquidCapacity", "@powerCapacity", "@powerNetStored", "@powerNetCapacity", "@powerNetIn",
    "@powerNetOut", "@ammo", "@totalAmmo", "@ammoCapacity", "@health", "@maxHealth", "@heat",
    "@shield", "@armor", "@efficiency", "@progress", "@timescale", "@rotation", "@x", "@y",
    "@velocityX", "@velocityY", "@shootX", "@shootY", "@cameraX", "@cameraY", "@cameraWidth",
    "@cameraHeight", "@size", "@solid", "@dead", "@range", "@shooting", "@boosting", "@mineX",
    "@mineY", "@mining", "@speed", "@team", "@type", "@flag", "@controlled", "@controller",
    "@name", "@payloadCount", "@payloadType", "@totalPayload", "@payloadCapacity", "@enabled",
    "@config", "@color",
    -- items
    "@copper", "@lead", "@metaglass", "@graphite", "@sand", "@coal", "@titanium", "@thorium",
    "@scrap", "@silicon", "@plastanium", "@phase-fabric", "@surge-alloy", "@spore-pod",
    "@blast-compound", "@pyratite", "@beryllium", "@tungsten", "@oxide", "@carbide",
    "@fissile-matter", "@dormant-cyst",
    -- liquids
    "@water", "@slag", "@oil", "@cryofluid", "@neoplasm", "@arkycite", "@gallium", "@ozone",
    "@hydrogen", "@nitrogen", "@cyanogen"]

/-- The units, named without their sigils. -/
def units : VocabularySet where
  name := "units"
  category := "type"
  transform := "sigil"
  words := texts [
    "dagger", "mace", "fortress", "scepter", "reign", "nova", "pulsar", "quasar", "vela",
    "corvus", "crawler", "atrax", "spiroct", "arkyid", "toxopid", "flare", "horizon", "zenith",
    "antumbra", "eclipse", "mono", "poly", "mega", "quad", "oct", "risso", "minke", "bryde",
    "sei", "omura", "retusa", "oxynoe", "cyerce", "aegires", "navanax", "alpha", "beta", "gamma",
    "stell", "locus", "precept", "vanquish", "conquer", "merui", "cleroi", "anthicus", "tecta",
    "collaris", "elude", "avert", "obviate", "quell", "disrupt", "evoke", "incite", "emanate"]

/-- The blocks, by the names they have in the game. -/
def blocks : VocabularySet where
  name := "blocks"
  category := "type"
  transform := "content"
  words := texts [
    -- distribution
    "Conveyor", "Titanium Conveyor", "Plastanium Conveyor", "Armored Conveyor", "Junction",
    "Bridge Conveyor", "Phase Conveyor", "Sorter", "Inverted Sorter", "Router", "Distributor",
    "Overflow Gate", "Underflow Gate", "Mass Driver", "Duct", "Duct Router", "Duct Bridge",
    "Unloader",
    -- production
    "Mechanical Drill", "Pneumatic Drill", "Laser Drill", "Blast Drill", "Water Extractor",
    "Cultivator", "Oil Extractor",
    -- crafting
    "Graphite Press", "Multi Press", "Silicon Smelter", "Silicon Crucible", "Kiln",
    "Plastanium Compressor", "Phase Weaver", "Surge Smelter", "Cryofluid Mixer",
    "Pyratite Mixer", "Blast Mixer", "Melter", "Separator", "Disassembler", "Spore Press",
    "Pulverizer", "Coal Centrifuge", "Incinerator",
    -- defense
    "Copper Wall", "Copper Wall Large", "Titanium Wall", "Titanium Wall Large",
    "Plastanium Wall", "Plastanium Wall Large", "Thorium Wall", "Thorium Wall Large",
    "Phase Wall", "Phase Wall Large", "Surge Wall", "Surge Wall Large", "Door", "Door Large",
    "Scrap Wall", "Mender", "Mend Projector", "Overdrive Projector", "Overdrive Dome",
    "Force Projector", "Shock Mine",
    -- turrets
    "Duo", "Scatter", "Scorch", "Hail", "Wave", "Lancer", "Arc", "Parallax", "Swarmer", "Salvo",
    "Segment", "Tsunami", "Fuse", "Ripple", "Cyclone", "Foreshadow", "Spectre", "Meltdown",
    -- units
    "Ground Factory", "Air Factory", "Naval Factory", "Additive Reconstructor",
    "Multiplicative Reconstructor", "Exponential Reconstructor", "Tetrative Reconstructor",
    "Repair Point", "Repair Turret",
    -- liquid
    "Mechanical Pump", "Rotary Pump", "Impulse Pump", "Conduit", "Pulse Conduit",
    "Plated Conduit", "Liquid Router", "Liquid Container", "Liquid Tank", "Liquid Junction",
    "Bridge Conduit", "Phase Conduit",
    -- power
    "Power Node", "Power Node Large", "Surge Tower", "Diode", "Battery", "Battery Large",
    "Combustion Generator", "Thermal Generator", "Steam Generator", "Differential Generator",
    "RTG Generator", "Solar Panel", "Solar Panel Large", "Thorium Reactor", "Impact Reactor",
    -- storage
    "Core Shard", "Core Foundation", "Core Nucleus", "Vault", "Container", "Launch Pad",
    -- logic
    "Message", "Switch", "Micro Processor", "Logic Processor", "Hyper Processor", "Memory Cell",
    "Memory Bank", "Logic Display", "Large Logic Display", "Illuminator", "World Processor",
    "World Cell", "World Message"]

end MlogHighlight.Vocabulary.Packaged

namespace MlogHighlight.Vocabulary

/-- The vocabulary that is used unless another one is given. -/
def packaged : Vocabulary :=
  [Packaged.keywords, Packaged.operations, Packaged.globals, Packaged.constants,
    Packaged.sensors, Packaged.units, Packaged.blocks]

end MlogHighlight.Vocabulary
