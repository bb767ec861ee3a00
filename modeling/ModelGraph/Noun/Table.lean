/-!
# Tables of English nouns

The nouns whose plural does not follow from a regular ending, and the endings and nouns that the
rules of `ModelGraph.Noun.Plural` ask for. Tables of capitalized nouns are compared with the noun
as written, all others with its lower case.
-/

namespace ModelGraph.Noun

/-- Nouns that are their own plural. -/
def unchangedNouns : List String :=
  ["bream", "breeches", "britches", "cantus", "carp", "chassis", "clippers", "cod", "coitus",
   "contretemps", "corps", "debris", "diabetes", "djinn", "flounder", "gallows", "graffiti",
   "haggis", "headquarters", "herpes", "hertz", "hijinks", "innings", "jackanapes", "mackerel",
   "mews", "moose", "mumps", "news", "nexus", "offspring", "pajamas", "pence", "pincers",
   "pliers", "proceedings", "pyjamas", "quid", "rabies", "salmon", "samuri", "scissors",
   "series", "shears", "siemens", "species", "subspecies", "testes", "trousers", "trout",
   "tuna", "whiting"]

/-- Capitalized nouns that are their own plural. -/
def unchangedNames : List String :=
  ["Amoyese", "Borghese", "Congoese", "Faroese", "Foochowese", "Genevese", "Genoese",
   "Gilbertese", "Hottentotese", "Kiplingese", "Kongoese", "Lucchese", "Maltese", "Nankingese",
   "Niasese", "Pekingese", "Piedmontese", "Pistoiese", "Portuguese", "Sarawakese", "Shavese",
   "Vermontese", "Wenchowese", "Yengeese"]

/-- Endings of nouns that are their own plural. -/
def unchangedEndings : List String :=
  ["baggage", "butter", "cash", "craft", "cutlery", "deer", "equipment", "fish", "furniture",
   "information", "jewelry", "lese", "livestock", "luggage", "machinery", "measles", "mese",
   "nese", "ois", "pox", "rese", "sheep"]

/-- Pronouns and their plurals. -/
def pronouns : List (String × String) :=
  [("me", "us"), ("myself", "ourselves"), ("you", "you"), ("yourself", "yourselves"),
   ("her", "them"), ("herself", "themselves"), ("him", "them"), ("himself", "themselves"),
   ("it", "they"), ("itself", "themselves"), ("them", "them"), ("themself", "themselves"),
   ("i", "we"), ("she", "they"), ("he", "they"), ("they", "they"), ("mine", "ours"),
   ("yours", "yours"), ("hers", "theirs"), ("his", "theirs"), ("its", "theirs"),
   ("theirs", "theirs")]

/-- Capitalized nouns with a plural of their own. -/
def irregularNames : List (String × String) :=
  [("Romany", "Romanies"), ("Jerry", "Jerrys"), ("Mary", "Marys"), ("Rom", "Roma")]

/-- Nouns with a plural of their own. -/
def irregularNouns : List (String × String) :=
  [("child", "children"), ("chili", "chilis"), ("brother", "brothers"),
   ("infinity", "infinities"), ("loaf", "loaves"), ("lore", "lores"), ("hoof", "hoofs"),
   ("beef", "beefs"), ("thief", "thiefs"), ("money", "monies"), ("mongoose", "mongooses"),
   ("ox", "oxen"), ("cow", "cows"), ("graffito", "graffiti"), ("octopus", "octopuses"),
   ("genie", "genies"), ("ganglion", "ganglions"), ("trilby", "trilbys"), ("turf", "turfs"),
   ("numen", "numina"), ("atman", "atmas"), ("occiput", "occiputs"),
   ("sabretooth", "sabretooths"), ("sabertooth", "sabertooths"), ("lowlife", "lowlifes"),
   ("flatfoot", "flatfoots"), ("tenderfoot", "tenderfoots"), ("romany", "romanies"),
   ("jerry", "jerries"), ("mary", "maries"), ("talouse", "talouses"), ("rom", "roma"),
   ("carmen", "carmina"), ("corpus", "corpuses"), ("opus", "opuses"), ("genus", "genera"),
   ("mythos", "mythoi"), ("penis", "penises"), ("testis", "testes"), ("atlas", "atlases"),
   ("yes", "yeses")]

/-- Endings in "man" that take an "s". -/
def mansEndings : List String :=
  ["ataman", "caiman", "cayman", "ceriman", "desman", "dolman", "farman", "harman", "hetman",
   "human", "leman", "ottoman", "shaman", "talisman"]

/-- Capitalized endings in "man" that take an "s". -/
def mansNames : List String :=
  ["Alabaman", "Bahaman", "Burman", "German", "Hiroshiman", "Liman", "Nakayaman", "Norman",
   "Oklahoman", "Panaman", "Roman", "Selman", "Sonaman", "Tacoman", "Yakiman", "Yokohaman",
   "Yuman"]

/-- The nouns in "louse" with a plural in "lice". -/
def liceNouns : List String :=
  ["booklouse", "grapelouse", "louse", "woodlouse"]

/-- Endings in "ch" that take an "s". -/
def chsEndings : List String :=
  ["czech", "eunuch", "stomach"]

/-- Endings in "ex" with a plural in "ices". -/
def exEndings : List String :=
  ["codex", "murex", "silex"]

/-- Endings in "ix" with a plural in "ices". -/
def ixEndings : List String :=
  ["helix", "radix"]

/-- Endings in "um" with a plural in "a". -/
def umEndings : List String :=
  ["agendum", "bacterium", "candelabrum", "datum", "desideratum", "erratum", "extremum", "ovum",
   "stratum"]

/-- Endings in "us" with a plural in "i". -/
def usEndings : List String :=
  ["alumnus", "alveolus", "bacillus", "bronchus", "locus", "meniscus", "nucleus", "sarcophagus",
   "stimulus"]

/-- Endings in "on" with a plural in "a". -/
def onEndings : List String :=
  ["aphelion", "asyndeton", "criterion", "hyperbaton", "noumenon", "organon", "perihelion",
   "phenomenon", "prolegomenon"]

/-- Endings in "a" with a plural in "ae". -/
def aeEndings : List String :=
  ["alga", "alumna", "persona", "vertebra", "vita"]

/-- Singular nouns that end in "s" and take "es". -/
def singularInS : List String :=
  ["acropolis", "aegis", "alias", "asbestos", "bathos", "bias", "bronchitis", "bursitis",
   "caddis", "cannabis", "canvas", "chaos", "chrysalis", "clitoris", "cosmos", "dais",
   "digitalis", "ephemeris", "epidermis", "epididymis", "ethos", "eyas", "gas", "glottis",
   "hubris", "ibis", "iris", "lens", "mantis", "marquis", "metropolis", "pathos", "pelvis",
   "polis", "rhinoceros", "sassafras", "trellis"]

/-- Nouns in "o" that take an "s". -/
def oNouns : List String :=
  ["ado", "oto"]

/-- Endings in "o" that take an "s". -/
def oEndings : List String :=
  ["aficionado", "aggro", "albino", "allegro", "alto", "ammo", "archipelago", "armadillo",
   "auto", "avocado", "basso", "bimbo", "bingo", "bolero", "bongo", "burro", "canto",
   "cappuccino", "casino", "cello", "cilantro", "cochito", "coco", "commando", "concertino",
   "contango", "contralto", "credo", "crescendo", "cyano", "demo", "ditto", "dynamo", "embryo",
   "espresso", "euro", "falsetto", "fiasco", "flamenco", "furioso", "generalissimo", "ghetto",
   "gigolo", "gizmo", "gringo", "guano", "gumbo", "gyro", "hairdo", "hippo", "impetigo",
   "inferno", "info", "intermezzo", "intertrigo", "jumbo", "junto", "kilo", "libero", "libido",
   "libretto", "lido", "limbo", "limo", "lineno", "lingo", "lino", "livedo", "loco", "logo",
   "lumbago", "macho", "macro", "mafioso", "magneto", "magnifico", "manifesto", "medico",
   "memo", "metro", "micro", "mono", "myo", "neutrino", "octavo", "oregano", "panto", "pedalo",
   "photo", "piano", "pimento", "pinto", "pleco", "pogo", "polo", "poncho", "pro", "psycho",
   "pueblo", "quarto", "repo", "rhino", "risotto", "rococo", "rondo", "saddo", "sago", "salvo",
   "scherzando", "scherzo", "silo", "sirocco", "solo", "sombrero", "soprano", "staccato",
   "sterno", "stucco", "stylo", "sumo", "techno", "tempo", "terrazzo", "testudo", "timpano",
   "tiro", "tobacco", "torero", "torso", "tremolo", "typo", "tyro", "ufo", "vaquero",
   "vermicello", "verso", "vibrato", "violoncello", "virtuoso", "weirdo", "zero"]

end ModelGraph.Noun
