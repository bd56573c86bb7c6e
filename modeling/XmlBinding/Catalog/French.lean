import XmlBinding.Catalog.Bundle

/-!
# French method names and documentation

Documentation only: the method names are the English ones.
-/

namespace XmlBinding.Catalog

def french : Bundle where
  classes := [
    ("dom4j_builder", "{0} lit et écrit les instances de {1} sous forme d'éléments dom4j."),
    ("as3_builder", "{0} lit et écrit les instances de {1} en XML E4X."),
    ("as3_model", "{0} est le modèle client de {1}.")]
  methods := [
    ("dom4j.get_instance", ⟨none, some "Construit un {0} à partir d'un élément dom4j."⟩),
    ("dom4j.get_element", ⟨none, some "Sérialise un {0} en élément dom4j."⟩),
    ("dom4j.get_entity_collection",
      ⟨none, some "Remplit une collection avec les instances de {0} d'un élément dom4j."⟩),
    ("dom4j.get_entity_array_element",
      ⟨none, some "Sérialise un tableau de {0} en élément dom4j."⟩),
    ("dom4j.get_entity_collection_element",
      ⟨none, some "Sérialise une collection de {0} en élément dom4j."⟩),
    ("dom4j.get_entity_map_element", ⟨none, some "Sérialise une table de {0} en élément dom4j."⟩),
    ("dom4j.get_array", ⟨none, some "Lit un tableau de {0} depuis un élément dom4j."⟩),
    ("dom4j.get_collection",
      ⟨none, some "Remplit une collection avec les valeurs {0} d'un élément dom4j."⟩),
    ("dom4j.get_map",
      ⟨none, some "Remplit une table de clés {1} et de valeurs {2} depuis un élément dom4j."⟩),
    ("dom4j.get_array_element", ⟨none, some "Sérialise un tableau de {0} en élément dom4j."⟩),
    ("dom4j.get_collection_element",
      ⟨none, some "Sérialise une collection de valeurs simples en élément dom4j."⟩),
    ("dom4j.get_map_element",
      ⟨none, some "Sérialise une table de valeurs simples en élément dom4j."⟩),
    ("as3.get_instance", ⟨none, some "Construit un {0} à partir d'un nœud XML."⟩),
    ("as3.get_xml", ⟨none, some "Sérialise un {0} en nœud XML."⟩),
    ("as3.get_basic_xml", ⟨none, some "Enveloppe une valeur simple dans un élément XML."⟩),
    ("as3.get_string", ⟨none, some "Lit le texte d'un nœud XML."⟩),
    ("as3.get_basic_array", ⟨none, some "Lit un tableau de {0} depuis un nœud XML."⟩),
    ("as3.get_basic_map", ⟨none, some "Lit un dictionnaire de {0} depuis un nœud XML."⟩),
    ("as3.get_entity_array", ⟨none, some "Lit un tableau de {0} depuis un nœud XML."⟩),
    ("as3.get_entity_map", ⟨none, some "Lit un dictionnaire de {0} depuis un nœud XML."⟩),
    ("as3.get_entity_xml_list", ⟨none, some "Sérialise un tableau de {0} en nœud XML."⟩),
    ("as3.get_basic_xml_list",
      ⟨none, some "Sérialise un tableau de valeurs simples en nœud XML."⟩),
    ("as3.get_basic_map_xml",
      ⟨none, some "Sérialise un dictionnaire de valeurs simples en nœud XML."⟩),
    ("as3.get_entity_map_xml", ⟨none, some "Sérialise un dictionnaire de {0} en nœud XML."⟩)]

end XmlBinding.Catalog
