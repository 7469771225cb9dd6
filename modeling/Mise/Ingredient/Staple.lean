import Mise.Ingredient

/-!
# Staples

The ingredients that are known without a table: what a kitchen keeps in stock, each under all its
common names. Wine, vinegar and soy sauce are known by their density alone.

## Main definitions

* `Staple`: The names of an ingredient with its properties.
* `staples`: All of them.
* `stapleSource`: Looking one of them up.
-/

namespace Mise

/-- The names of an ingredient with its properties. -/
structure Staple where
  names : List String
  properties : Properties

/-- Baking goods. -/
def bakingGoods : List Staple := [
  ⟨["flour", "all-purpose flour", "wheat flour"],
    ⟨some 0.53, none, some ⟨364.0, 10.0, 76.0, 1.0⟩⟩⟩,
  ⟨["sugar", "white sugar", "granulated sugar"], ⟨some 0.85, none, some ⟨387.0, 0.0, 100.0, 0.0⟩⟩⟩,
  ⟨["brown sugar"], ⟨some 0.93, none, some ⟨380.0, 0.0, 98.0, 0.0⟩⟩⟩,
  ⟨["powdered sugar", "icing sugar"], ⟨some 0.56, none, some ⟨389.0, 0.0, 100.0, 0.0⟩⟩⟩,
  ⟨["butter"], ⟨some 0.911, none, some ⟨717.0, 0.85, 0.06, 81.0⟩⟩⟩,
  ⟨["oil", "vegetable oil", "olive oil"], ⟨some 0.92, none, some ⟨884.0, 0.0, 0.0, 100.0⟩⟩⟩,
  ⟨["milk", "whole milk"], ⟨some 1.03, none, some ⟨61.0, 3.2, 4.8, 3.3⟩⟩⟩,
  ⟨["water"], ⟨some 1.0, none, some ⟨0.0, 0.0, 0.0, 0.0⟩⟩⟩,
  ⟨["salt", "sea salt"], ⟨some 1.2, none, some ⟨0.0, 0.0, 0.0, 0.0⟩⟩⟩,
  ⟨["yeast", "active dry yeast"], ⟨some 0.95, none, some ⟨325.0, 40.0, 41.0, 7.0⟩⟩⟩,
  ⟨["baking powder"], ⟨some 0.9, none, some ⟨53.0, 0.0, 28.0, 0.0⟩⟩⟩,
  ⟨["baking soda"], ⟨some 1.2, none, some ⟨0.0, 0.0, 0.0, 0.0⟩⟩⟩,
  ⟨["cocoa powder", "cocoa"], ⟨some 0.44, none, some ⟨228.0, 20.0, 58.0, 14.0⟩⟩⟩,
  ⟨["honey"], ⟨some 1.42, none, some ⟨304.0, 0.3, 82.0, 0.0⟩⟩⟩,
  ⟨["maple syrup"], ⟨some 1.37, none, some ⟨260.0, 0.0, 67.0, 0.0⟩⟩⟩,
  ⟨["cream", "heavy cream"], ⟨some 1.01, none, some ⟨340.0, 2.8, 2.7, 36.0⟩⟩⟩,
  ⟨["vanilla extract"], ⟨some 0.88, none, some ⟨288.0, 0.0, 13.0, 0.0⟩⟩⟩,
  ⟨["cornstarch", "corn flour"], ⟨some 0.65, none, some ⟨381.0, 0.3, 91.0, 0.1⟩⟩⟩,
  ⟨["almond flour", "ground almonds"], ⟨some 0.45, none, some ⟨579.0, 21.0, 22.0, 50.0⟩⟩⟩,
  ⟨["chocolate chips", "chocolate"], ⟨some 0.7, none, some ⟨546.0, 6.0, 61.0, 31.0⟩⟩⟩,
  ⟨["cheese", "cheddar"], ⟨some 0.6, none, some ⟨403.0, 25.0, 1.3, 33.0⟩⟩⟩]

/-- Fruit and vegetables, and eggs. -/
def produce : List Staple := [
  ⟨["egg", "eggs"], ⟨some 1.03, some 55.0, some ⟨143.0, 12.6, 0.7, 9.5⟩⟩⟩,
  ⟨["egg yolk", "egg yolks", "yolk", "yolks"],
    ⟨some 1.03, some 18.0, some ⟨322.0, 16.0, 3.6, 27.0⟩⟩⟩,
  ⟨["egg white", "egg whites", "white", "whites"],
    ⟨some 1.03, some 33.0, some ⟨52.0, 11.0, 0.7, 0.2⟩⟩⟩,
  ⟨["lemon", "lemons"], ⟨some 1.0, some 120.0, some ⟨29.0, 1.1, 9.0, 0.3⟩⟩⟩,
  ⟨["lemon juice", "juice"], ⟨some 1.04, some 45.0, some ⟨22.0, 0.35, 6.9, 0.2⟩⟩⟩,
  ⟨["lemon zest", "zest"], ⟨some 0.5, some 3.0, some ⟨47.0, 1.5, 16.0, 0.3⟩⟩⟩,
  ⟨["lime", "limes"], ⟨some 1.0, some 60.0, some ⟨30.0, 0.7, 11.0, 0.2⟩⟩⟩,
  ⟨["onion", "onions", "yellow onion", "red onion", "red onions"],
    ⟨some 0.7, some 150.0, some ⟨40.0, 1.1, 9.3, 0.1⟩⟩⟩,
  ⟨["garlic", "garlic clove", "garlic cloves"],
    ⟨some 0.6, some 5.0, some ⟨149.0, 6.4, 33.0, 0.5⟩⟩⟩,
  ⟨["carrot", "carrots"], ⟨some 0.7, some 100.0, some ⟨41.0, 0.9, 9.6, 0.2⟩⟩⟩,
  ⟨["potato", "potatoes", "russet potato"], ⟨some 0.77, some 200.0, some ⟨77.0, 2.0, 17.0, 0.1⟩⟩⟩,
  ⟨["apple", "apples"], ⟨some 0.6, some 180.0, some ⟨52.0, 0.3, 14.0, 0.2⟩⟩⟩,
  ⟨["banana", "bananas"], ⟨some 0.9, some 120.0, some ⟨89.0, 1.1, 23.0, 0.3⟩⟩⟩,
  ⟨["tomato", "tomatoes"], ⟨some 0.95, some 120.0, some ⟨18.0, 0.9, 3.9, 0.2⟩⟩⟩,
  ⟨["canned tomatoes", "canned tomato"], ⟨some 1.1, none, some ⟨32.0, 1.6, 7.3, 0.3⟩⟩⟩,
  ⟨["bell pepper", "red bell pepper", "green bell pepper"],
    ⟨some 0.5, some 150.0, some ⟨26.0, 1.0, 6.0, 0.3⟩⟩⟩,
  ⟨["chili", "chili pepper", "espelette pepper"],
    ⟨some 0.5, some 15.0, some ⟨40.0, 1.9, 9.0, 0.4⟩⟩⟩,
  ⟨["ginger"], ⟨some 0.9, some 30.0, some ⟨80.0, 1.8, 18.0, 0.8⟩⟩⟩,
  ⟨["spinach"], ⟨some 0.1, some 300.0, some ⟨23.0, 2.9, 3.6, 0.4⟩⟩⟩]

/-- Meat and other protein. -/
def meatAndProtein : List Staple := [
  ⟨["chicken", "chicken breast"], ⟨some 1.05, some 200.0, some ⟨165.0, 31.0, 0.0, 3.6⟩⟩⟩,
  ⟨["chicken thigh", "chicken thighs"], ⟨some 1.05, some 120.0, some ⟨209.0, 26.0, 0.0, 10.9⟩⟩⟩,
  ⟨["beef", "ground beef", "steak"], ⟨some 1.05, none, some ⟨250.0, 26.0, 0.0, 17.0⟩⟩⟩,
  ⟨["pork", "pork chop"], ⟨some 1.05, some 150.0, some ⟨242.0, 27.0, 0.0, 14.0⟩⟩⟩,
  ⟨["bacon"], ⟨some 0.5, none, some ⟨541.0, 37.0, 1.4, 42.0⟩⟩⟩,
  ⟨["tofu"], ⟨some 0.95, none, some ⟨76.0, 8.1, 1.9, 4.8⟩⟩⟩]

/-- Spices. -/
def spices : List Staple := [
  ⟨["pepper", "black pepper", "ground pepper"], ⟨some 0.5, none, some ⟨251.0, 10.0, 64.0, 3.3⟩⟩⟩,
  ⟨["cinnamon"], ⟨some 0.55, none, some ⟨247.0, 4.0, 81.0, 1.2⟩⟩⟩,
  ⟨["paprika"], ⟨some 0.45, none, some ⟨282.0, 14.0, 54.0, 13.0⟩⟩⟩,
  ⟨["cumin"], ⟨some 0.45, none, some ⟨375.0, 18.0, 44.0, 22.0⟩⟩⟩,
  ⟨["turmeric"], ⟨some 0.6, none, some ⟨354.0, 8.0, 65.0, 10.0⟩⟩⟩]

/-- Stocks and sauces. -/
def stocksAndSauces : List Staple := [
  ⟨["stock", "chicken stock", "beef stock", "vegetable stock", "broth"],
    ⟨some 1.01, none, some ⟨15.0, 2.0, 1.0, 0.5⟩⟩⟩,
  ⟨["mayonnaise"], ⟨some 0.92, none, some ⟨680.0, 1.0, 1.0, 75.0⟩⟩⟩,
  ⟨["mustard"], ⟨some 1.05, none, some ⟨66.0, 4.0, 8.0, 4.0⟩⟩⟩,
  ⟨["ketchup"], ⟨some 1.15, none, some ⟨111.0, 1.0, 26.0, 0.0⟩⟩⟩]

/-- Grains. -/
def grains : List Staple := [
  ⟨["rice"], ⟨some 0.85, none, some ⟨360.0, 7.0, 80.0, 0.7⟩⟩⟩,
  ⟨["basmati rice"], ⟨some 0.85, none, some ⟨350.0, 8.0, 77.0, 0.5⟩⟩⟩,
  ⟨["oats", "rolled oats"], ⟨some 0.4, none, some ⟨389.0, 17.0, 66.0, 7.0⟩⟩⟩,
  ⟨["pasta", "spaghetti"], ⟨some 1.3, none, some ⟨371.0, 13.0, 75.0, 1.5⟩⟩⟩]

/-- Liquids. -/
def liquids : List Staple := [
  ⟨["wine", "red wine", "white wine"], ⟨some 0.99, none, none⟩⟩,
  ⟨["vinegar"], ⟨some 1.01, none, none⟩⟩,
  ⟨["soy sauce"], ⟨some 1.13, none, none⟩⟩]

/-- All staples. -/
def staples : List Staple :=
  bakingGoods ++ produce ++ meatAndProtein ++ spices ++ stocksAndSauces ++ grains ++ liquids

/-- The properties of the staple with a name. -/
def staple? (key : String) : Option Properties :=
  (staples.find? fun s => s.names.contains key).map Staple.properties

/-- The staples as a source of properties. -/
def stapleSource : IngredientSource := ⟨staple?⟩

end Mise
