import XmlBinding.Catalog.Bundle

/-!
# English method names and documentation

The bundle that every lookup falls back to.
-/

namespace XmlBinding.Catalog

def english : Bundle where
  classes := [
    ("dom4j_builder", "{0} reads and writes {1} instances as dom4j elements."),
    ("as3_builder", "{0} reads and writes {1} instances as E4X XML."),
    ("as3_model", "{0} is the client model of {1}.")]
  methods := [
    ("dom4j.get_instance", ⟨some "getInstance", some "Builds a {0} from a dom4j element."⟩),
    ("dom4j.get_element", ⟨some "getElement", some "Serializes a {0} into a dom4j element."⟩),
    ("dom4j.get_entity_collection",
      ⟨some "getEntityCollection",
        some "Fills a collection with the {0} instances found under a dom4j element."⟩),
    ("dom4j.get_entity_array_element",
      ⟨some "getEntityArrayElement", some "Serializes an array of {0} into a dom4j element."⟩),
    ("dom4j.get_entity_collection_element",
      ⟨some "getEntityCollectionElement",
        some "Serializes a collection of {0} into a dom4j element."⟩),
    ("dom4j.get_entity_map_element",
      ⟨some "getEntityMapElement", some "Serializes a map of {0} into a dom4j element."⟩),
    ("dom4j.get_array", ⟨some "get{0}Array", some "Reads an array of {0} from a dom4j element."⟩),
    ("dom4j.get_collection",
      ⟨some "get{0}Collection",
        some "Fills a collection with the {0} values found under a dom4j element."⟩),
    ("dom4j.get_map",
      ⟨some "get{0}Map", some "Fills a map of {1} keys and {2} entries from a dom4j element."⟩),
    ("dom4j.get_array_element",
      ⟨some "get{0}ArrayElement", some "Serializes an array of {0} into a dom4j element."⟩),
    ("dom4j.get_collection_element",
      ⟨some "getCollectionElement",
        some "Serializes a collection of basic values into a dom4j element."⟩),
    ("dom4j.get_map_element",
      ⟨some "getMapElement", some "Serializes a map of basic values into a dom4j element."⟩),
    ("as3.get_instance", ⟨some "getInstance", some "Builds a {0} from an XML node."⟩),
    ("as3.get_xml", ⟨some "getXML", some "Serializes a {0} into an XML node."⟩),
    ("as3.get_basic_xml", ⟨some "getBasicXML", some "Wraps a basic value into an XML element."⟩),
    ("as3.get_string", ⟨some "getString", some "Reads the text of an XML node."⟩),
    ("as3.get_basic_array", ⟨some "get{0}Array", some "Reads an array of {0} from an XML node."⟩),
    ("as3.get_basic_map", ⟨some "get{0}Map", some "Reads a dictionary of {0} from an XML node."⟩),
    ("as3.get_entity_array",
      ⟨some "getEntityArray", some "Reads an array of {0} from an XML node."⟩),
    ("as3.get_entity_map",
      ⟨some "getEntityMap", some "Reads a dictionary of {0} from an XML node."⟩),
    ("as3.get_entity_xml_list",
      ⟨some "getEntityXMLList", some "Serializes an array of {0} into an XML node."⟩),
    ("as3.get_basic_xml_list",
      ⟨some "getBasicXMLList", some "Serializes an array of basic values into an XML node."⟩),
    ("as3.get_basic_map_xml",
      ⟨some "getBasicMapXML", some "Serializes a dictionary of basic values into an XML node."⟩),
    ("as3.get_entity_map_xml",
      ⟨some "getEntityMapXML", some "Serializes a dictionary of {0} into an XML node."⟩)]

end XmlBinding.Catalog
