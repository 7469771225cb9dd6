/-!
# Names of Pictographs

A pictograph is spelled by its short name, followed by a space, so that neighbouring pictographs
stay apart as words.

## Main definitions

* `pictographs`: Pictographs with their names.
* `pictograph?`: The spelling of a pictograph.
-/

namespace Mise

namespace Transliteration

/-- Pictographs with their short names. -/
def pictographs : List (Nat × String) := [
  (0x231A, "watch"), (0x231B, "hourglass"), (0x23F0, "alarm clock"), (0x23F1, "stopwatch"),
  (0x23F2, "timer clock"), (0x23F3, "hourglass flowing sand"), (0x2600, "sunny"), (0x2601, "cloud"),
  (0x260E, "phone"), (0x2614, "umbrella"), (0x2615, "coffee"), (0x2618, "shamrock"),
  (0x2620, "skull and crossbones"), (0x2622, "radioactive"), (0x2623, "biohazard"),
  (0x2639, "frowning face"), (0x263A, "relaxed"), (0x2640, "female sign"), (0x2642, "male sign"),
  (0x2660, "spades"), (0x2663, "clubs"), (0x2665, "hearts"), (0x2666, "diamonds"),
  (0x2668, "hotsprings"), (0x267B, "recycle"), (0x2696, "balance scale"), (0x26A0, "warning"),
  (0x26A1, "zap"), (0x26BD, "soccer"), (0x26C4, "snowman"), (0x2702, "scissors"),
  (0x2705, "white check mark"), (0x2708, "airplane"), (0x2709, "envelope"), (0x270B, "hand"),
  (0x270C, "v"), (0x270F, "pencil2"), (0x2714, "heavy check mark"),
  (0x2716, "heavy multiplication x"), (0x2728, "sparkles"), (0x2744, "snowflake"), (0x274C, "x"),
  (0x2753, "question"), (0x2757, "exclamation"), (0x2764, "heart"), (0x2795, "heavy plus sign"),
  (0x2796, "heavy minus sign"), (0x2797, "heavy division sign"), (0x2B50, "star"), (0x2B55, "o"),
  (0x1F308, "rainbow"), (0x1F30A, "ocean"), (0x1F30D, "earth africa"), (0x1F30E, "earth americas"),
  (0x1F30F, "earth asia"), (0x1F319, "crescent moon"), (0x1F31E, "sun with face"),
  (0x1F31F, "star2"), (0x1F321, "thermometer"), (0x1F32D, "hotdog"), (0x1F32E, "taco"),
  (0x1F32F, "burrito"), (0x1F330, "chestnut"), (0x1F331, "seedling"), (0x1F332, "evergreen tree"),
  (0x1F333, "deciduous tree"), (0x1F334, "palm tree"), (0x1F335, "cactus"), (0x1F336, "hot pepper"),
  (0x1F337, "tulip"), (0x1F338, "cherry blossom"), (0x1F339, "rose"), (0x1F33A, "hibiscus"),
  (0x1F33B, "sunflower"), (0x1F33C, "blossom"), (0x1F33D, "corn"), (0x1F33E, "ear of rice"),
  (0x1F33F, "herb"), (0x1F340, "four leaf clover"), (0x1F341, "maple leaf"),
  (0x1F342, "fallen leaf"), (0x1F343, "leaves"), (0x1F344, "mushroom"), (0x1F345, "tomato"),
  (0x1F346, "eggplant"), (0x1F347, "grapes"), (0x1F348, "melon"), (0x1F349, "watermelon"),
  (0x1F34A, "tangerine"), (0x1F34B, "lemon"), (0x1F34C, "banana"), (0x1F34D, "pineapple"),
  (0x1F34E, "apple"), (0x1F34F, "green apple"), (0x1F350, "pear"), (0x1F351, "peach"),
  (0x1F352, "cherries"), (0x1F353, "strawberry"), (0x1F354, "hamburger"), (0x1F355, "pizza"),
  (0x1F356, "meat on bone"), (0x1F357, "poultry leg"), (0x1F358, "rice cracker"),
  (0x1F359, "rice ball"), (0x1F35A, "rice"), (0x1F35B, "curry"), (0x1F35C, "ramen"),
  (0x1F35D, "spaghetti"), (0x1F35E, "bread"), (0x1F35F, "fries"), (0x1F360, "sweet potato"),
  (0x1F361, "dango"), (0x1F362, "oden"), (0x1F363, "sushi"), (0x1F364, "fried shrimp"),
  (0x1F365, "fish cake"), (0x1F366, "icecream"), (0x1F367, "shaved ice"), (0x1F368, "ice cream"),
  (0x1F369, "doughnut"), (0x1F36A, "cookie"), (0x1F36B, "chocolate bar"), (0x1F36C, "candy"),
  (0x1F36D, "lollipop"), (0x1F36E, "custard"), (0x1F36F, "honey pot"), (0x1F370, "cake"),
  (0x1F371, "bento"), (0x1F372, "stew"), (0x1F373, "fried egg"), (0x1F374, "fork and knife"),
  (0x1F375, "tea"), (0x1F376, "sake"), (0x1F377, "wine glass"), (0x1F378, "cocktail"),
  (0x1F379, "tropical drink"), (0x1F37A, "beer"), (0x1F37B, "beers"), (0x1F37C, "baby bottle"),
  (0x1F37D, "plate with cutlery"), (0x1F37E, "champagne"), (0x1F37F, "popcorn"),
  (0x1F380, "ribbon"), (0x1F381, "gift"), (0x1F382, "birthday"), (0x1F383, "jack o lantern"),
  (0x1F384, "christmas tree"), (0x1F385, "santa"), (0x1F386, "fireworks"), (0x1F388, "balloon"),
  (0x1F389, "tada"), (0x1F38A, "confetti ball"), (0x1F392, "school satchel"),
  (0x1F393, "mortar board"), (0x1F3AF, "dart"), (0x1F3B5, "musical note"), (0x1F3C6, "trophy"),
  (0x1F3E0, "house"), (0x1F3EA, "convenience store"), (0x1F400, "rat"), (0x1F401, "mouse2"),
  (0x1F402, "ox"), (0x1F403, "water buffalo"), (0x1F404, "cow2"), (0x1F407, "rabbit2"),
  (0x1F40C, "snail"), (0x1F40D, "snake"), (0x1F40E, "racehorse"), (0x1F40F, "ram"),
  (0x1F410, "goat"), (0x1F411, "sheep"), (0x1F413, "rooster"), (0x1F414, "chicken"),
  (0x1F416, "pig2"), (0x1F417, "boar"), (0x1F418, "elephant"), (0x1F419, "octopus"),
  (0x1F41A, "shell"), (0x1F41B, "bug"), (0x1F41C, "ant"), (0x1F41D, "bee"), (0x1F41F, "fish"),
  (0x1F420, "tropical fish"), (0x1F421, "blowfish"), (0x1F422, "turtle"),
  (0x1F423, "hatching chick"), (0x1F424, "baby chick"), (0x1F425, "hatched chick"),
  (0x1F426, "bird"), (0x1F427, "penguin"), (0x1F428, "koala"), (0x1F429, "poodle"),
  (0x1F42A, "dromedary camel"), (0x1F42B, "camel"), (0x1F42C, "dolphin"), (0x1F42D, "mouse"),
  (0x1F42E, "cow"), (0x1F42F, "tiger"), (0x1F430, "rabbit"), (0x1F431, "cat"), (0x1F433, "whale"),
  (0x1F434, "horse"), (0x1F435, "monkey face"), (0x1F436, "dog"), (0x1F437, "pig"),
  (0x1F438, "frog"), (0x1F439, "hamster"), (0x1F43A, "wolf"), (0x1F43B, "bear"),
  (0x1F43C, "panda face"), (0x1F43D, "pig nose"), (0x1F440, "eyes"), (0x1F445, "tongue"),
  (0x1F44B, "wave"), (0x1F44C, "ok hand"), (0x1F44D, "+1"), (0x1F44E, "-1"), (0x1F44F, "clap"),
  (0x1F451, "crown"), (0x1F466, "boy"), (0x1F467, "girl"), (0x1F468, "man"), (0x1F469, "woman"),
  (0x1F474, "older man"), (0x1F475, "older woman"), (0x1F476, "baby"), (0x1F47B, "ghost"),
  (0x1F480, "skull"), (0x1F48E, "gem"), (0x1F494, "broken heart"), (0x1F495, "two hearts"),
  (0x1F496, "sparkling heart"), (0x1F499, "blue heart"), (0x1F49A, "green heart"),
  (0x1F49B, "yellow heart"), (0x1F49C, "purple heart"), (0x1F4A1, "bulb"), (0x1F4A3, "bomb"),
  (0x1F4A6, "sweat drops"), (0x1F4A7, "droplet"), (0x1F4A8, "dash"), (0x1F4A9, "poop"),
  (0x1F4AA, "muscle"), (0x1F4AF, "100"), (0x1F4B0, "moneybag"), (0x1F4BB, "computer"),
  (0x1F4C5, "date"), (0x1F4CC, "pushpin"), (0x1F4D6, "book"), (0x1F4DD, "memo"),
  (0x1F4DE, "telephone receiver"), (0x1F4E6, "package"), (0x1F4F7, "camera"), (0x1F511, "key"),
  (0x1F512, "lock"), (0x1F514, "bell"), (0x1F525, "fire"), (0x1F527, "wrench"), (0x1F528, "hammer"),
  (0x1F52A, "hocho"), (0x1F550, "clock1"), (0x1F551, "clock2"), (0x1F552, "clock3"),
  (0x1F553, "clock4"), (0x1F554, "clock5"), (0x1F555, "clock6"), (0x1F556, "clock7"),
  (0x1F557, "clock8"), (0x1F558, "clock9"), (0x1F559, "clock10"), (0x1F55A, "clock11"),
  (0x1F55B, "clock12"), (0x1F600, "grinning"), (0x1F601, "grin"), (0x1F602, "joy"),
  (0x1F603, "smiley"), (0x1F604, "smile"), (0x1F605, "sweat smile"), (0x1F606, "laughing"),
  (0x1F607, "innocent"), (0x1F608, "smiling imp"), (0x1F609, "wink"), (0x1F60A, "blush"),
  (0x1F60B, "yum"), (0x1F60C, "relieved"), (0x1F60D, "heart eyes"), (0x1F60E, "sunglasses"),
  (0x1F60F, "smirk"), (0x1F610, "neutral face"), (0x1F611, "expressionless"), (0x1F614, "pensive"),
  (0x1F618, "kissing heart"), (0x1F61B, "stuck out tongue"), (0x1F61E, "disappointed"),
  (0x1F620, "angry"), (0x1F621, "rage"), (0x1F622, "cry"), (0x1F62D, "sob"), (0x1F631, "scream"),
  (0x1F634, "sleeping"), (0x1F642, "slightly smiling face"), (0x1F64F, "pray"), (0x1F680, "rocket"),
  (0x1F697, "car"), (0x1F6A9, "triangular flag on post"), (0x1F6AB, "no entry sign"),
  (0x1F6D2, "shopping cart"), (0x1F914, "thinking"), (0x1F917, "hugs"), (0x1F922, "nauseated face"),
  (0x1F923, "rofl"), (0x1F924, "drooling face"), (0x1F929, "star struck"),
  (0x1F92E, "vomiting face"), (0x1F942, "clinking glasses"), (0x1F943, "tumbler glass"),
  (0x1F944, "spoon"), (0x1F947, "1st place medal"), (0x1F950, "croissant"), (0x1F951, "avocado"),
  (0x1F952, "cucumber"), (0x1F953, "bacon"), (0x1F954, "potato"), (0x1F955, "carrot"),
  (0x1F956, "baguette bread"), (0x1F957, "green salad"), (0x1F958, "shallow pan of food"),
  (0x1F959, "stuffed flatbread"), (0x1F95A, "egg"), (0x1F95B, "milk glass"), (0x1F95C, "peanuts"),
  (0x1F95D, "kiwi fruit"), (0x1F95E, "pancakes"), (0x1F95F, "dumpling"),
  (0x1F960, "fortune cookie"), (0x1F961, "takeout box"), (0x1F962, "chopsticks"),
  (0x1F963, "bowl with spoon"), (0x1F964, "cup with straw"), (0x1F965, "coconut"),
  (0x1F966, "broccoli"), (0x1F967, "pie"), (0x1F968, "pretzel"), (0x1F969, "cut of meat"),
  (0x1F96A, "sandwich"), (0x1F96B, "canned food"), (0x1F96C, "leafy green"), (0x1F96D, "mango"),
  (0x1F96E, "moon cake"), (0x1F96F, "bagel"), (0x1F970, "smiling face with three hearts"),
  (0x1F973, "partying face"), (0x1F980, "crab"), (0x1F982, "scorpion"), (0x1F983, "turkey"),
  (0x1F984, "unicorn"), (0x1F985, "eagle"), (0x1F986, "duck"), (0x1F987, "bat"), (0x1F988, "shark"),
  (0x1F989, "owl"), (0x1F98A, "fox face"), (0x1F98B, "butterfly"), (0x1F98C, "deer"),
  (0x1F990, "shrimp"), (0x1F991, "squid"), (0x1F99E, "lobster"), (0x1F9AA, "oyster"),
  (0x1F9C0, "cheese"), (0x1F9C1, "cupcake"), (0x1F9C2, "salt"), (0x1F9C3, "beverage box"),
  (0x1F9C4, "garlic"), (0x1F9C5, "onion"), (0x1F9C6, "falafel"), (0x1F9C7, "waffle"),
  (0x1F9C8, "butter"), (0x1F9C9, "mate"), (0x1F9CA, "ice cube"), (0x1F9CB, "bubble tea"),
  (0x1F9D1, "adult"), (0x1F9FA, "basket"), (0x1FAD0, "blueberries"), (0x1FAD1, "bell pepper"),
  (0x1FAD2, "olive"), (0x1FAD3, "flatbread"), (0x1FAD4, "tamale"), (0x1FAD5, "fondue"),
  (0x1FAD6, "teapot")]

/-- The name of a pictograph, followed by a space. -/
def pictograph? (n : Nat) : Option String :=
  (pictographs.lookup n).map (· ++ " ")

end Transliteration

end Mise
